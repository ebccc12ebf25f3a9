/-!
Byte strings and the numbers written in them, least or most significant byte first.
Every reader of this library works on lists of bytes; a part of a packet whose length is fixed by
its format is an `Octets n`.
-/

namespace BleBeacon

-- The bytes of a packet, a payload or a characteristic value, in order.
abbrev Bytes := List UInt8

abbrev Octets (n : Nat) := { bytes : Bytes // bytes.length = n }

namespace Octets

def reverse {n : Nat} (o : Octets n) : Octets n :=
  ⟨o.1.reverse, by simp [o.2]⟩

def byte (o : Octets 1) : UInt8 :=
  match o with
  | ⟨[b], _⟩ => b

-- The first `n` bytes of a string that has them.
def ofTake (bytes : Bytes) (n : Nat) (h : n ≤ bytes.length) : Octets n :=
  ⟨bytes.take n, by simp [h]⟩

def zero (n : Nat) : Octets n := ⟨List.replicate n 0, by simp⟩

end Octets

namespace Bytes

-- The number whose digits to base 256 are `bytes`, least significant first.
def leNat : Bytes → Nat
  | [] => 0
  | b :: rest => b.toNat + 256 * leNat rest

-- The number whose digits to base 256 are `bytes`, most significant first.
def beNat (bytes : Bytes) : Nat := leNat bytes.reverse

-- The `width` lowest digits of `n` to base 256, least significant first.
def ofNatLE : Nat → Nat → Bytes
  | 0, _ => []
  | width + 1, n => UInt8.ofNat n :: ofNatLE width (n / 256)

-- The `width` lowest digits of `n` to base 256, most significant first.
def ofNatBE (width n : Nat) : Bytes := (ofNatLE width n).reverse

-- The `width` bytes that start at `offset`, if all of them are there.
def slice? (bytes : Bytes) (offset width : Nat) : Option Bytes :=
  if offset + width ≤ bytes.length then some ((bytes.drop offset).take width) else none

-- What follows `start` in bytes that start with it.
def after? : Bytes → Bytes → Option Bytes
  | [], bytes => some bytes
  | _ :: _, [] => none
  | b :: start, c :: bytes => if b = c then after? start bytes else none

theorem eq_append_of_after? {start bytes rest : Bytes} (h : after? start bytes = some rest) :
    bytes = start ++ rest := by
  induction start generalizing bytes with
  | nil =>
    cases h
    rfl
  | cons b start ih =>
    cases bytes with
    | nil => cases h
    | cons c bytes =>
      unfold after? at h
      split at h
      · rename_i hb
        rw [ih h, hb, List.cons_append]
      · cases h

@[simp] theorem length_ofNatLE (width n : Nat) : (ofNatLE width n).length = width := by
  induction width generalizing n with
  | zero => rfl
  | succ width ih => simp [ofNatLE, ih]

@[simp] theorem length_ofNatBE (width n : Nat) : (ofNatBE width n).length = width := by
  simp [ofNatBE]

end Bytes

end BleBeacon
