import Mathlib
import BleBeacon.SensorTag.Value
import BleBeacon.Proofs.Field.Number
import BleBeacon.Proofs.Text.Acceptance

/-!
# Calibrations read back

A calibration is written as its coefficients in turn, two bytes for each of them.  A value is read
as a calibration exactly if it starts with these bytes and two bytes are enough for each
coefficient, and every value of sixteen bytes or more starts with those of some calibration.
-/

namespace BleBeacon.SensorTag

open BleBeacon.Field

/-! ## Coefficients -/

/-- Reads of numbers of two bytes that are widened to coefficients.  The coefficients from `low` to
`high` can come of it, and the number of one is what it is by the bits that are sent. -/
structure ReadsCoefficient {α : Type} (low high : Int) (number : α → Nat) (widen : α → Int32)
    (read : Bytes → Nat → Except DecodeError α) : Prop where
  reads : ReadsNumber 2 number read
  range : ∀ n : Int32, (∃ a, widen a = n) ↔ low ≤ n.toInt ∧ n.toInt ≤ high
  number_eq : ∀ a, ((widen a).toInt % 2 ^ 16).toNat = number a

theorem ReadsCoefficient.exists_eq_ok_iff {α : Type} {low high : Int} {number : α → Nat}
    {widen : α → Int32} {read : Bytes → Nat → Except DecodeError α}
    (h : ReadsCoefficient low high number widen read) {bytes : Bytes} {offset : Nat} {n : Int32} :
    (∃ a, read bytes offset = .ok a ∧ widen a = n) ↔ (low ≤ n.toInt ∧ n.toInt ≤ high) ∧
      (bytes.drop offset).take 2 = Bytes.ofNatLE 2 (n.toInt % 2 ^ 16).toNat := by
  have hbound : ∀ a, number a < 256 ^ 2 := by
    intro a
    rw [← h.number_eq a]
    omega
  have hread : ∀ a, read bytes offset = .ok a ↔
      (bytes.drop offset).take 2 = Bytes.ofNatLE 2 (number a) :=
    fun a ↦ h.reads.eq_ok_iff (by decide) hbound
  rw [← h.range]
  constructor
  · rintro ⟨a, ha, rfl⟩
    rw [h.number_eq]
    exact ⟨⟨a, rfl⟩, (hread a).mp ha⟩
  · rintro ⟨⟨a, rfl⟩, hpart⟩
    rw [h.number_eq] at hpart
    exact ⟨a, (hread a).mpr hpart, rfl⟩

theorem toInt_widened (n : UInt16) : n.toUInt32.toInt32.toInt = n.toNat := by
  have hn := n.toNat_lt
  show n.toUInt32.toBitVec.toInt = n.toNat
  rw [BitVec.toInt_eq_toNat_of_lt]
  · rfl
  · show 2 * n.toNat < 2 ^ 32
    omega

theorem readsCoefficient_unsigned16 :
    ReadsCoefficient 0 65535 UInt16.toNat (fun n ↦ n.toUInt32.toInt32) unsigned16 where
  reads := readsNumber_unsigned16
  range n := by
    constructor
    · rintro ⟨m, rfl⟩
      have hm := m.toNat_lt
      rw [toInt_widened]
      omega
    · rintro ⟨hlow, hhigh⟩
      refine ⟨UInt16.ofNat n.toInt.toNat, Int32.toInt_inj.mp ?_⟩
      rw [toInt_widened, UInt16.toNat_ofNat']
      omega
  number_eq n := by
    have hn := n.toNat_lt
    rw [toInt_widened]
    omega

theorem readsCoefficient_signed16 :
    ReadsCoefficient (-32768) 32767 (fun n ↦ n.toUInt16.toNat) Int16.toInt32 signed16 where
  reads := readsNumber_signed16
  range n := by
    constructor
    · rintro ⟨m, rfl⟩
      rw [Int16.toInt_toInt32]
      exact ⟨m.le_toInt, Int.le_of_lt_add_one m.toInt_lt⟩
    · rintro ⟨hlow, hhigh⟩
      refine ⟨Int16.ofInt n.toInt, Int32.toInt_inj.mp ?_⟩
      rw [Int16.toInt_toInt32, Int16.toInt_ofInt_of_le hlow (Int.lt_add_one_of_le hhigh)]
  number_eq n := by
    have hn := n.toUInt16.toNat_lt
    rw [Int16.toInt_toInt32, toInt_eq_twosComplement]
    unfold twosComplement
    split <;> omega

namespace Calibration

/-- The bytes of a calibration: its coefficients in turn, the lower byte of each first. -/
def written (c : Calibration) : Bytes :=
  c.toList.flatMap fun n ↦ Bytes.ofNatLE 2 (n % 2 ^ 16).toNat

/-- Calibrations whose coefficients have room in two bytes each, the first four without a sign and
the last four with one. -/
def InRange (c : Calibration) : Prop :=
  (∀ n ∈ c.toList.take 4, 0 ≤ n ∧ n ≤ 65535) ∧ ∀ n ∈ c.toList.drop 4, -32768 ≤ n ∧ n ≤ 32767

instance : DecidablePred InRange := fun _ ↦ inferInstanceAs (Decidable (_ ∧ _))

theorem length_written (c : Calibration) : c.written.length = length := rfl

variable {bytes : Bytes} {c : Calibration}

/-- A calibration is read exactly if each coefficient is, from its place. -/
theorem ofBytes_eq_ok_iff : ofBytes bytes = .ok c ↔ length ≤ bytes.length ∧
    (∃ n, unsigned16 bytes 0 = .ok n ∧ n.toUInt32.toInt32 = c.c0) ∧
    (∃ n, unsigned16 bytes 2 = .ok n ∧ n.toUInt32.toInt32 = c.c1) ∧
    (∃ n, unsigned16 bytes 4 = .ok n ∧ n.toUInt32.toInt32 = c.c2) ∧
    (∃ n, unsigned16 bytes 6 = .ok n ∧ n.toUInt32.toInt32 = c.c3) ∧
    (∃ n, signed16 bytes 8 = .ok n ∧ n.toInt32 = c.c4) ∧
    (∃ n, signed16 bytes 10 = .ok n ∧ n.toInt32 = c.c5) ∧
    (∃ n, signed16 bytes 12 = .ok n ∧ n.toInt32 = c.c6) ∧
    (∃ n, signed16 bytes 14 = .ok n ∧ n.toInt32 = c.c7) := by
  have hbind : ∀ {α β : Type} {x : Except DecodeError α} {f : α → Except DecodeError β} {b : β},
      (x >>= f) = .ok b ↔ ∃ a, x = .ok a ∧ f a = .ok b := by
    intro α β x f b
    cases x with
    | error e => exact ⟨fun h ↦ (nomatch h), fun h ↦ (nomatch h.choose_spec.1)⟩
    | ok a => exact ⟨fun h ↦ ⟨a, rfl, h⟩, fun ⟨a', ha, h⟩ ↦ Except.ok.inj ha ▸ h⟩
  unfold ofBytes
  by_cases hshort : bytes.length < length
  · rw [if_pos hshort]
    exact ⟨fun h ↦ (nomatch h), fun h ↦ absurd h.1 (Nat.not_le.mpr hshort)⟩
  · rw [if_neg hshort, and_iff_right (Nat.not_lt.mp hshort)]
    cases c
    simp only [hbind]
    constructor
    · rintro ⟨_, h0, _, h1, _, h2, _, h3, _, h4, _, h5, _, h6, _, h7, hc⟩
      cases hc
      exact ⟨⟨_, h0, rfl⟩, ⟨_, h1, rfl⟩, ⟨_, h2, rfl⟩, ⟨_, h3, rfl⟩, ⟨_, h4, rfl⟩, ⟨_, h5, rfl⟩,
        ⟨_, h6, rfl⟩, ⟨_, h7, rfl⟩⟩
    · rintro ⟨⟨_, h0, rfl⟩, ⟨_, h1, rfl⟩, ⟨_, h2, rfl⟩, ⟨_, h3, rfl⟩, ⟨_, h4, rfl⟩, ⟨_, h5, rfl⟩,
        ⟨_, h6, rfl⟩, ⟨_, h7, rfl⟩⟩
      exact ⟨_, h0, _, h1, _, h2, _, h3, _, h4, _, h5, _, h6, _, h7, rfl⟩

theorem ofBytes_eq_ok_iff_isPrefix :
    ofBytes bytes = .ok c ↔ c.InRange ∧ c.written <+: bytes := by
  have hlength : c.written <+: bytes → length ≤ bytes.length := by
    intro h
    rw [← length_written c]
    exact h.length_le
  rw [← and_iff_right_of_imp (b := c.InRange ∧ c.written <+: bytes) fun h ↦ hlength h.2,
    ofBytes_eq_ok_iff]
  refine and_congr_right' ?_
  simp only [readsCoefficient_unsigned16.exists_eq_ok_iff,
    readsCoefficient_signed16.exists_eq_ok_iff]
  unfold InRange written toList
  simp only [List.take_succ_cons, List.take_zero, List.drop_succ_cons, List.drop_zero,
    List.forall_mem_cons, List.not_mem_nil, false_implies, implies_true, List.flatMap_cons,
    List.flatMap_nil, Bytes.append_isPrefix_iff, Bytes.length_ofNatLE, List.drop_drop,
    Nat.reduceAdd, List.nil_prefix, and_true]
  constructor
  · rintro ⟨⟨r0, p0⟩, ⟨r1, p1⟩, ⟨r2, p2⟩, ⟨r3, p3⟩, ⟨r4, p4⟩, ⟨r5, p5⟩, ⟨r6, p6⟩, r7, p7⟩
    exact ⟨⟨⟨r0, r1, r2, r3⟩, r4, r5, r6, r7⟩, p0, p1, p2, p3, p4, p5, p6, p7⟩
  · rintro ⟨⟨⟨r0, r1, r2, r3⟩, r4, r5, r6, r7⟩, p0, p1, p2, p3, p4, p5, p6, p7⟩
    exact ⟨⟨r0, p0⟩, ⟨r1, p1⟩, ⟨r2, p2⟩, ⟨r3, p3⟩, ⟨r4, p4⟩, ⟨r5, p5⟩, ⟨r6, p6⟩, r7, p7⟩

theorem exists_ofBytes (h : length ≤ bytes.length) : ∃ c, ofBytes bytes = .ok c := by
  have hinside : ∀ offset, offset ≤ 14 → offset + 2 ≤ bytes.length := by
    intro offset hoffset
    unfold length at h
    omega
  have hunsigned : ∀ offset, offset ≤ 14 → ∃ n, unsigned16 bytes offset = .ok n :=
    fun offset hoffset ↦ readsNumber_unsigned16.exists_ok (hinside offset hoffset)
  have hsigned : ∀ offset, offset ≤ 14 → ∃ n, signed16 bytes offset = .ok n :=
    fun offset hoffset ↦ readsNumber_signed16.exists_ok (hinside offset hoffset)
  obtain ⟨c0, h0⟩ := hunsigned 0 (by decide)
  obtain ⟨c1, h1⟩ := hunsigned 2 (by decide)
  obtain ⟨c2, h2⟩ := hunsigned 4 (by decide)
  obtain ⟨c3, h3⟩ := hunsigned 6 (by decide)
  obtain ⟨c4, h4⟩ := hsigned 8 (by decide)
  obtain ⟨c5, h5⟩ := hsigned 10 (by decide)
  obtain ⟨c6, h6⟩ := hsigned 12 (by decide)
  obtain ⟨c7, h7⟩ := hsigned 14 (by decide)
  exact ⟨⟨_, _, _, _, _, _, _, _⟩, ofBytes_eq_ok_iff.mpr ⟨h, ⟨c0, h0, rfl⟩, ⟨c1, h1, rfl⟩,
    ⟨c2, h2, rfl⟩, ⟨c3, h3, rfl⟩, ⟨c4, h4, rfl⟩, ⟨c5, h5, rfl⟩, ⟨c6, h6, rfl⟩, ⟨c7, h7, rfl⟩⟩⟩

theorem parse_of_decodeValue {value : String} (h : Hex.decodeValue value = .ok bytes) :
    parse value = ofBytes bytes := by
  unfold parse
  rw [h]
  rfl

/-- Numbers are read exactly where all of their bytes are, whatever the offset, and signed ones as
the two's complement of the unsigned ones, which is what moving the signed byte up and filling in
the other one gives.  A value with the digits of some bytes is a calibration exactly if these are
sixteen or more, and then the one whose bytes it starts with: those of all eight coefficients, for
each of which two bytes are enough. -/
theorem fields_and_calibrations_read :
    (ReadsNumber 2 UInt16.toNat unsigned16 ∧ ReadsNumber 2 (fun n ↦ n.toUInt16.toNat) signed16 ∧
      ReadsNumber 3 UInt32.toNat unsigned24) ∧
    (∀ bytes offset,
      (signed16 bytes offset).map Int16.toInt = (unsigned16 bytes offset).map twosComplement ∧
      signed16 bytes offset =
        (bytesAt bytes offset 2).map fun part ↦ shiftOr (part.getD 0 0) (part.getD 1 0)) ∧
    (∀ (bytes : Bytes) (offset width : UInt64), bytes.length < 2 ^ 64 →
      bytesAt bytes offset.toNat width.toNat = atWord bytes offset width) ∧
    (∀ value bytes, Hex.decodeValue value = .ok bytes →
      ((∃ c, parse value = .ok c) ↔ 16 ≤ bytes.length) ∧
      ∀ c, parse value = .ok c ↔ c.InRange ∧ c.written <+: bytes) ∧
    ∀ (c : Calibration) trailing, c.InRange →
      parse (Hex.encode (c.written ++ trailing)) = .ok c := by
  refine ⟨⟨readsNumber_unsigned16, readsNumber_signed16, readsNumber_unsigned24⟩,
    fun bytes offset ↦ ⟨toInt_signed16 bytes offset, signed16_eq_shiftOr bytes offset⟩,
    fun bytes offset width h ↦ (atWord_eq_bytesAt h offset width).symm, ?_, ?_⟩
  · intro value bytes hvalue
    rw [parse_of_decodeValue hvalue]
    exact ⟨⟨fun ⟨c, hc⟩ ↦ (ofBytes_eq_ok_iff.mp hc).1, exists_ofBytes⟩,
      fun c ↦ ofBytes_eq_ok_iff_isPrefix⟩
  · intro c trailing hrange
    rw [parse_of_decodeValue (Hex.decodeValue_encode _)]
    exact ofBytes_eq_ok_iff_isPrefix.mpr ⟨hrange, List.prefix_append _ _⟩

/-- Coefficients at both ends of their ranges. -/
def extremeCalibration : Calibration := ⟨0, 65535, 1, 0x1234, -32768, 32767, -1, -200⟩

def extremeText : String := "0x 00 00:FF FF 01 00 34 12 00 80 FF 7F FF FF 38 FF 77"

theorem fields_and_calibrations_read_extremeCalibration :
    Hex.decodeValue extremeText = .ok (extremeCalibration.written ++ [0x77]) ∧
    extremeCalibration.InRange ∧ parse extremeText = .ok extremeCalibration ∧
    parse (Hex.encode (extremeCalibration.written ++ [0x77])) = .ok extremeCalibration ∧
    ([1, 2, 3] : Bytes).length < 2 ^ 64 ∧
    atWord [1, 2, 3] 18446744073709551615 2 = .error (.fieldOutOfRange (2 ^ 64 - 1) 2 3) := by
  have hvalue : Hex.decodeValue extremeText = .ok (extremeCalibration.written ++ [0x77]) := by
    decide +kernel
  have hlength : ([1, 2, 3] : Bytes).length < 2 ^ 64 := by decide
  have hlast : (18446744073709551615 : UInt64).toNat = 2 ^ 64 - 1 := by decide
  obtain ⟨-, -, hwords, hcalibration, hwritten⟩ := fields_and_calibrations_read
  have hrange : extremeCalibration.InRange := by decide
  refine ⟨hvalue, hrange, ((hcalibration _ _ hvalue).2 _).mpr ⟨hrange, List.prefix_append _ _⟩,
    hwritten _ _ hrange, hlength, ?_⟩
  rw [← hwords _ _ _ hlength, hlast]
  exact bytesAt_of_lt (by decide)

end BleBeacon.SensorTag.Calibration
