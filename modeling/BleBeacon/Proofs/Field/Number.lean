import Mathlib
import BleBeacon.Proofs.Bytes
import BleBeacon.Proofs.Field

/-!
# Numbers in fields

A number is read exactly if all of its bytes are there, and is then the number that these bytes
write.  A signed number is the two's complement reading of the unsigned one at its place, though it
is put together from a signed byte and an unsigned one.
-/

namespace BleBeacon.Field

/-! ## Two bytes, the upper one signed -/

/-- The number of two bytes as words of 32 bits make it: the upper byte, extended by its sign and
moved up by eight places, and the lower byte in the places that this leaves. -/
def shiftOr (low high : UInt8) : Int16 :=
  ((high.toInt8.toInt32 <<< 8) ||| low.toUInt32.toInt32).toInt16

/-- The sign is extended to places that the result does not have. -/
theorem toBitVec_shiftOr (low high : UInt8) :
    (shiftOr low high).toBitVec = high.toBitVec ++ low.toBitVec := by
  show ((high.toBitVec.signExtend 32 <<< 8) ||| low.toBitVec.setWidth 32).signExtend 16 = _
  rw [BitVec.signExtend_eq_setWidth_of_le _ (by decide)]
  apply BitVec.eq_of_getLsbD_eq
  intro i hi
  have hword : i < 32 := by omega
  rw [BitVec.getLsbD_setWidth, BitVec.getLsbD_or, BitVec.getLsbD_shiftLeft, BitVec.getLsbD_append,
    BitVec.getLsbD_setWidth, decide_eq_true hi, decide_eq_true hword]
  by_cases hlow : i < 8
  · rw [if_pos hlow, decide_eq_true hlow]
    rfl
  · have hhigh : i - 8 < 8 := by omega
    have hextended : i - 8 < 32 := by omega
    rw [if_neg hlow, decide_eq_false hlow, BitVec.getLsbD_signExtend, if_pos hhigh,
      decide_eq_true hextended, BitVec.getLsbD_of_ge low.toBitVec i (by omega)]
    simp only [Bool.true_and, Bool.not_false, Bool.and_false, Bool.or_false]

theorem leNat_pair (low high : UInt8) :
    Bytes.leNat [low, high] = (high.toBitVec ++ low.toBitVec).toNat := by
  rw [BitVec.toNat_append, ← Nat.shiftLeft_add_eq_or_of_lt low.toBitVec.isLt, Nat.shiftLeft_eq]
  show low.toNat + 256 * (high.toNat + 256 * 0) = high.toNat * 2 ^ 8 + low.toNat
  omega

theorem toNat_shiftOr (low high : UInt8) :
    (shiftOr low high).toUInt16.toNat = Bytes.leNat [low, high] := by
  rw [leNat_pair, ← toBitVec_shiftOr]
  rfl

theorem toNat_signedPair (low high : UInt8) :
    (Int16.ofInt (signedPair [low, high])).toUInt16.toNat = Bytes.leNat [low, high] := by
  have hlow := low.toNat_lt
  have hhigh := high.toNat_lt
  show (BitVec.ofInt 16 (256 * high.toBitVec.toInt + low.toNat)).toNat =
    low.toNat + 256 * (high.toNat + 256 * 0)
  rw [BitVec.toNat_ofInt, BitVec.toInt_eq_toNat_cond]
  show ((256 * (if 2 * high.toNat < 2 ^ 8 then (high.toNat : Int)
    else high.toNat - (2 ^ 8 : Nat)) + low.toNat) % (2 ^ 16 : Nat)).toNat = _
  split <;> omega

theorem toNat_toUInt16_injective : Function.Injective fun n : Int16 ↦ n.toUInt16.toNat := by
  intro m n h
  exact Int16.toBitVec_inj.mp (BitVec.eq_of_toNat_eq h)

theorem ofInt_signedPair (low high : UInt8) :
    Int16.ofInt (signedPair [low, high]) = shiftOr low high :=
  toNat_toUInt16_injective ((toNat_signedPair low high).trans (toNat_shiftOr low high).symm)

/-- The number of 16 bits that a signed reading of a word gives. -/
def twosComplement (n : UInt16) : Int :=
  if n.toNat < 2 ^ 15 then n.toNat else n.toNat - 2 ^ 16

theorem toInt_eq_twosComplement (n : Int16) : n.toInt = twosComplement n.toUInt16 := by
  show n.toBitVec.toInt = _
  rw [BitVec.toInt_eq_toNat_cond]
  show (if 2 * n.toUInt16.toNat < 2 ^ 16 then (n.toUInt16.toNat : Int)
    else n.toUInt16.toNat - (2 ^ 16 : Nat)) = _
  unfold twosComplement
  split <;> split <;> omega

/-! ## Reads -/

variable {α : Type} {width : Nat} {number : α → Nat} {read : Bytes → Nat → Except DecodeError α}

theorem bytesAt_of_le {bytes : Bytes} {offset : Nat} (h : offset + width ≤ bytes.length) :
    bytesAt bytes offset width = .ok ((bytes.drop offset).take width) :=
  (bytesAt_eq ⟨offset, width⟩ bytes).trans (if_pos h)

theorem bytesAt_of_lt {bytes : Bytes} {offset : Nat} (h : bytes.length < offset + width) :
    bytesAt bytes offset width = .error (.fieldOutOfRange offset width bytes.length) :=
  (bytesAt_eq ⟨offset, width⟩ bytes).trans (if_neg (Nat.not_le.mpr h))

/-- Reads of the number that some bytes write, least significant first: they succeed exactly if all
of the bytes are there, and tell the place and the length otherwise. -/
def ReadsNumber (width : Nat) (number : α → Nat) (read : Bytes → Nat → Except DecodeError α) :
    Prop :=
  ∀ bytes offset,
    (∀ a, read bytes offset = .ok a ↔ offset + width ≤ bytes.length ∧
      number a = Bytes.leNat ((bytes.drop offset).take width)) ∧
    ∀ e, read bytes offset = .error e ↔ bytes.length < offset + width ∧
      e = .fieldOutOfRange offset width bytes.length

theorem ReadsNumber.of_map {convert : Bytes → α}
    (hread : ∀ bytes offset, read bytes offset = (bytesAt bytes offset width).map convert)
    (hinjective : Function.Injective number)
    (hconvert : ∀ part : Bytes, part.length = width → number (convert part) = Bytes.leNat part) :
    ReadsNumber width number read := by
  intro bytes offset
  rw [hread]
  by_cases hinside : offset + width ≤ bytes.length
  · have hlength : ((bytes.drop offset).take width).length = width := by
      rw [List.length_take, List.length_drop]
      omega
    rw [bytesAt_of_le hinside, ← hconvert _ hlength]
    constructor
    · intro a
      show Except.ok (convert _) = .ok a ↔ _
      rw [Except.ok.injEq, ← hinjective.eq_iff, eq_comm, and_iff_right hinside]
    · intro e
      show Except.ok (convert _) = .error e ↔ _
      exact ⟨fun h ↦ (nomatch h), fun h ↦ absurd hinside (Nat.not_le.mpr h.1)⟩
  · rw [bytesAt_of_lt (Nat.not_le.mp hinside)]
    constructor
    · intro a
      show Except.error _ = .ok a ↔ _
      exact ⟨fun h ↦ (nomatch h), fun h ↦ absurd h.1 hinside⟩
    · intro e
      show Except.error _ = .error e ↔ _
      rw [Except.error.injEq, eq_comm, and_iff_right (Nat.not_le.mp hinside)]

theorem readsNumber_unsigned16 : ReadsNumber 2 UInt16.toNat unsigned16 := by
  refine .of_map (fun _ _ ↦ rfl) (fun _ _ ↦ UInt16.toNat_inj.mp) fun part hpart ↦ ?_
  have hlt := Bytes.leNat_lt part
  rw [hpart] at hlt
  rw [UInt16.toNat_ofNat']
  omega

theorem readsNumber_unsigned24 : ReadsNumber 3 UInt32.toNat unsigned24 := by
  refine .of_map (fun _ _ ↦ rfl) (fun _ _ ↦ UInt32.toNat_inj.mp) fun part hpart ↦ ?_
  have hlt := Bytes.leNat_lt part
  rw [hpart] at hlt
  rw [UInt32.toNat_ofNat']
  omega

theorem readsNumber_signed16 : ReadsNumber 2 (fun n ↦ n.toUInt16.toNat) signed16 := by
  refine .of_map (fun _ _ ↦ rfl) toNat_toUInt16_injective fun part hpart ↦ ?_
  obtain ⟨low, high, rfl⟩ := List.length_eq_two.mp hpart
  exact toNat_signedPair low high

namespace ReadsNumber

variable {bytes : Bytes} {offset : Nat} {a : α}

theorem exists_ok (h : ReadsNumber width number read) (hinside : offset + width ≤ bytes.length) :
    ∃ a, read bytes offset = .ok a := by
  cases hread : read bytes offset with
  | ok a => exact ⟨a, rfl⟩
  | error e =>
    have hshort := (((h bytes offset).2 e).mp hread).1
    omega

/-- What is read as a number are the bytes in which the number is written. -/
theorem eq_ok_iff (h : ReadsNumber width number read) (hwidth : 0 < width)
    (hbound : ∀ a, number a < 256 ^ width) :
    read bytes offset = .ok a ↔ (bytes.drop offset).take width = Bytes.ofNatLE width (number a) := by
  rw [(h bytes offset).1]
  constructor
  · rintro ⟨hinside, hnumber⟩
    have hlength : ((bytes.drop offset).take width).length = width := by
      rw [List.length_take, List.length_drop]
      omega
    have hwritten := Bytes.ofNatLE_leNat ((bytes.drop offset).take width)
    rw [hlength] at hwritten
    rw [hnumber, hwritten]
  · intro hpart
    have hlength : ((bytes.drop offset).take width).length = width := by
      rw [hpart, Bytes.length_ofNatLE]
    rw [List.length_take, List.length_drop] at hlength
    rw [hpart, Bytes.leNat_ofNatLE, Nat.mod_eq_of_lt (hbound a)]
    exact ⟨by omega, rfl⟩

end ReadsNumber

theorem map_bytesAt_congr {f g : Bytes → α} (h : ∀ part : Bytes, part.length = width → f part = g part)
    (bytes : Bytes) (offset : Nat) :
    (bytesAt bytes offset width).map f = (bytesAt bytes offset width).map g := by
  by_cases hinside : offset + width ≤ bytes.length
  · rw [bytesAt_of_le hinside]
    show Except.ok (f _) = Except.ok (g _)
    rw [h]
    rw [List.length_take, List.length_drop]
    omega
  · rw [bytesAt_of_lt (Nat.not_le.mp hinside)]
    rfl

theorem signed16_eq_shiftOr (bytes : Bytes) (offset : Nat) :
    signed16 bytes offset =
      (bytesAt bytes offset 2).map fun part ↦ shiftOr (part.getD 0 0) (part.getD 1 0) := by
  refine map_bytesAt_congr (f := fun part ↦ Int16.ofInt (signedPair part)) ?_ bytes offset
  intro part hpart
  obtain ⟨low, high, rfl⟩ := List.length_eq_two.mp hpart
  exact ofInt_signedPair low high

theorem toInt_signed16 (bytes : Bytes) (offset : Nat) :
    (signed16 bytes offset).map Int16.toInt = (unsigned16 bytes offset).map twosComplement := by
  have hmap : ∀ {β γ : Type} (f : Bytes → β) (g : β → γ),
      ((bytesAt bytes offset 2).map f).map g = (bytesAt bytes offset 2).map (g ∘ f) := by
    intro β γ f g
    cases bytesAt bytes offset 2 <;> rfl
  refine (hmap _ _).trans ((map_bytesAt_congr ?_ bytes offset).trans (hmap _ _).symm)
  intro part hpart
  obtain ⟨low, high, rfl⟩ := List.length_eq_two.mp hpart
  have hword : (Int16.ofInt (signedPair [low, high])).toUInt16 =
      UInt16.ofNat (Bytes.leNat [low, high]) := by
    rw [← toNat_signedPair, UInt16.ofNat_toNat]
  show (Int16.ofInt (signedPair [low, high])).toInt = twosComplement _
  rw [toInt_eq_twosComplement, hword]

/-! ## Offsets that are words -/

/-- The place behind a field, if it is a word of 64 bits as its offset and its width are. -/
def wordEnd? (offset width : UInt64) : Option UInt64 :=
  if offset + width < offset then none else some (offset + width)

/-- The bytes of a field whose end is found with words. -/
def atWord (bytes : Bytes) (offset width : UInt64) : Except DecodeError Bytes :=
  match wordEnd? offset width with
  | none => .error (.fieldOutOfRange offset.toNat width.toNat bytes.length)
  | some stop =>
    if stop.toNat ≤ bytes.length then .ok ((bytes.take stop.toNat).drop offset.toNat)
    else .error (.fieldOutOfRange offset.toNat width.toNat bytes.length)

/-- Of values that have a word for their length, words are enough to tell the end. -/
theorem atWord_eq_bytesAt {bytes : Bytes} (h : bytes.length < 2 ^ 64) (offset width : UInt64) :
    atWord bytes offset width = bytesAt bytes offset.toNat width.toNat := by
  have hoffset := offset.toNat_lt
  have hwidth := width.toNat_lt
  have hsum : (offset + width).toNat = (offset.toNat + width.toNat) % 2 ^ 64 := UInt64.toNat_add ..
  unfold atWord wordEnd?
  by_cases hwraps : offset + width < offset
  · rw [if_pos hwraps]
    have hlong : 2 ^ 64 ≤ offset.toNat + width.toNat := by
      rw [UInt64.lt_iff_toNat_lt, hsum] at hwraps
      omega
    exact (bytesAt_of_lt (by omega)).symm
  · rw [if_neg hwraps]
    have hstop : (offset + width).toNat = offset.toNat + width.toNat := by
      rw [UInt64.lt_iff_toNat_lt, hsum] at hwraps
      omega
    dsimp only
    rw [hstop]
    by_cases hinside : offset.toNat + width.toNat ≤ bytes.length
    · rw [if_pos hinside, bytesAt_of_le hinside, List.drop_take, Nat.add_sub_cancel_left]
    · rw [if_neg hinside, bytesAt_of_lt (Nat.not_le.mp hinside)]

end BleBeacon.Field
