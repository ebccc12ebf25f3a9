import Mathlib
import BleBeacon.Bytes

/-!
Numbers written in bytes and read back: of a number, what fits into the width remains.  A part that
stands between others is read by dropping what is in front of it.
-/

namespace BleBeacon.Bytes

theorem leNat_ofNatLE (width n : Nat) : leNat (ofNatLE width n) = n % 256 ^ width := by
  induction width generalizing n with
  | zero => simp [ofNatLE, leNat, Nat.mod_one]
  | succ width ih =>
    have low : (UInt8.ofNat n).toNat = n % 256 := by simp
    rw [ofNatLE, leNat, ih, low, Nat.pow_succ, Nat.mul_comm (256 ^ width) 256, Nat.mod_mul]

theorem beNat_ofNatBE (width n : Nat) : beNat (ofNatBE width n) = n % 256 ^ width := by
  simp [beNat, ofNatBE, leNat_ofNatLE]

theorem leNat_lt (bytes : Bytes) : leNat bytes < 256 ^ bytes.length := by
  induction bytes with
  | nil => decide
  | cons b rest ih =>
    have hb := b.toNat_lt
    rw [leNat, List.length_cons, Nat.pow_succ]
    omega

theorem beNat_lt (bytes : Bytes) : beNat bytes < 256 ^ bytes.length := by
  rw [beNat, ← List.length_reverse]
  exact leNat_lt bytes.reverse

theorem ofNatLE_leNat (bytes : Bytes) : ofNatLE bytes.length (leNat bytes) = bytes := by
  induction bytes with
  | nil => rfl
  | cons b rest ih =>
    have hb := b.toNat_lt
    have hlow : UInt8.ofNat (b.toNat + 256 * leNat rest) = b := by
      apply UInt8.toNat_inj.mp
      rw [UInt8.toNat_ofNat']
      omega
    have hhigh : (b.toNat + 256 * leNat rest) / 256 = leNat rest := by omega
    rw [List.length_cons, leNat, ofNatLE, hlow, hhigh, ih]

-- The width is a number of its own, so that it can be given by a format.
theorem ofNatBE_beNat {bytes : Bytes} {width : Nat} (h : bytes.length = width) :
    ofNatBE width (beNat bytes) = bytes := by
  rw [ofNatBE, beNat, ← h, ← List.length_reverse, ofNatLE_leNat, List.reverse_reverse]

theorem toUInt16_beNat_ofNatBE (n : UInt16) : UInt16.ofNat (beNat (ofNatBE 2 n.toNat)) = n := by
  have hlt := n.toNat_lt
  rw [beNat_ofNatBE, Nat.mod_eq_of_lt (by omega), UInt16.ofNat_toNat]

theorem ofNatBE_toUInt16_beNat {part : Bytes} (h : part.length = 2) :
    ofNatBE 2 (UInt16.ofNat (beNat part)).toNat = part := by
  have hlt : beNat part < 2 ^ 16 := by
    have hlt := beNat_lt part
    rwa [h] at hlt
  rw [UInt16.toNat_ofNat', Nat.mod_eq_of_lt hlt, ofNatBE_beNat h]

theorem ofNatBE_toUInt32_beNat {part : Bytes} (h : part.length = 4) :
    ofNatBE 4 (UInt32.ofNat (beNat part)).toNat = part := by
  have hlt : beNat part < 2 ^ 32 := by
    have hlt := beNat_lt part
    rwa [h] at hlt
  rw [UInt32.toNat_ofNat', Nat.mod_eq_of_lt hlt, ofNatBE_beNat h]

theorem toUInt32_beNat_ofNatBE (n : UInt32) :
    UInt32.ofNat (beNat (ofNatBE 4 n.toNat)) = n := by
  have hlt : n.toNat < 256 ^ 4 := n.toNat_lt
  rw [beNat_ofNatBE, Nat.mod_eq_of_lt hlt, UInt32.ofNat_toNat]

theorem ofNatBE_toInt64_beNat {part : Bytes} (h : part.length = 8) :
    ofNatBE 8 (UInt64.ofNat (beNat part)).toInt64.toUInt64.toNat = part := by
  have hlt : beNat part < 2 ^ 64 := by
    have hlt := beNat_lt part
    rwa [h] at hlt
  rw [UInt64.toUInt64_toInt64, UInt64.toNat_ofNat', Nat.mod_eq_of_lt hlt, ofNatBE_beNat h]

theorem toInt64_beNat_ofNatBE (n : Int64) :
    (UInt64.ofNat (beNat (ofNatBE 8 n.toUInt64.toNat))).toInt64 = n := by
  have hlt : n.toUInt64.toNat < 256 ^ 8 := n.toUInt64.toNat_lt
  rw [beNat_ofNatBE, Nat.mod_eq_of_lt hlt, UInt64.ofNat_toNat,
    Int64.toInt64_toUInt64]

theorem take_drop_middle {front part back : Bytes} {n k : Nat} (hn : front.length = n)
    (hk : part.length = k) : ((front ++ (part ++ back)).drop n).take k = part := by
  rw [← hn, List.drop_left, ← hk, List.take_left]

theorem exists_append_of_le_length {bytes : Bytes} {n : Nat} (h : n ≤ bytes.length) :
    ∃ front back, front ++ back = bytes ∧ front.length = n :=
  ⟨bytes.take n, bytes.drop n, List.take_append_drop n bytes, List.length_take_of_le h⟩

theorem append_isPrefix_iff {α : Type} {xs ys zs : List α} :
    xs ++ ys <+: zs ↔ zs.take xs.length = xs ∧ ys <+: zs.drop xs.length := by
  constructor
  · rintro ⟨rest, rfl⟩
    rw [List.append_assoc, List.take_left, List.drop_left]
    exact ⟨rfl, rest, rfl⟩
  · rintro ⟨htake, rest, hrest⟩
    refine ⟨rest, ?_⟩
    rw [List.append_assoc, hrest]
    nth_rewrite 1 [← htake]
    exact List.take_append_drop _ _

end BleBeacon.Bytes
