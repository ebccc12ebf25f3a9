import Mathlib
import BleBeacon.Proofs.Effect
import BleBeacon.Proofs.Text.Spelling

/-!
# Spellings of a sensor value

A reading does not depend on how the bytes of its value are written, with one exception.  The
revision of the older generation is decoded without the last three characters of its text, which are
its last byte only if that byte stands apart; so its spellings have one reading exactly if the same
number of digits is left of them.
-/

namespace BleBeacon

namespace SensorTag

open Hex

variable {sensor : Sensor} {firmware : Firmware} {calibration : Option Calibration}
  {value s t : String} {bytes : Bytes}

/-- Values whose text is cut off before it is cleaned. -/
def CutsText (sensor : Sensor) (firmware : Firmware) : Prop :=
  sensor = .firmwareRevision ∧ firmware = .cc2541

instance (sensor : Sensor) (firmware : Firmware) : Decidable (CutsText sensor firmware) :=
  inferInstanceAs (Decidable (_ ∧ _))

theorem relevantText_of_not_cutsText (h : ¬ CutsText sensor firmware) (value : String) :
    relevantText sensor firmware value = value := by
  unfold relevantText
  split
  · exact absurd ⟨rfl, rfl⟩ h
  · rfl

theorem decode_of_isValue (hwhole : ¬ CutsText sensor firmware)
    (calibration : Option Calibration) (h : IsValue value.toList bytes) :
    decode sensor value firmware calibration = decodeBytes sensor firmware calibration bytes := by
  rw [decode, relevantText_of_not_cutsText hwhole, decodeValue,
    (spells_clean_iff_isValue.mpr h).decode_eq]
  rfl

/-! ## Revisions of the older generation -/

theorem toList_dropLast (n : Nat) (value : String) :
    (dropLast n value).toList = value.toList.take (value.toList.length - n) := by
  rw [dropLast, String.toList_ofList]

/-- The digits that are left of a value without the last three characters of its text. -/
def keptDigits (value : String) : Nat := (cleanChars (dropLast 3 value).toList).length

/-- The revision that some digits of a value spell, if they are two for each byte. -/
def revisionOf (bytes : Bytes) (digits : Nat) : Except DecodeError Reading :=
  if digits % 2 = 1 then .error (.oddHexLength digits)
  else .ok (.firmwareRevision (byteText (bytes.take (digits / 2))))

theorem decodeValue_dropLast (h : IsValue value.toList bytes) :
    decodeValue (dropLast 3 value) =
        (if keptDigits value % 2 = 1 then .error (.oddHexLength (keptDigits value))
        else .ok (bytes.take (keptDigits value / 2))) ∧
      (keptDigits value % 2 = 0 → keptDigits value ≤ 2 * bytes.length) := by
  refine h.decode_cleanChars_of_isPrefix ?_
  rw [toList_dropLast]
  exact List.take_prefix _ _

theorem decode_cutText (calibration : Option Calibration) (h : IsValue value.toList bytes) :
    decode .firmwareRevision value .cc2541 calibration = revisionOf bytes (keptDigits value) := by
  have hcut : relevantText .firmwareRevision .cc2541 value = dropLast 3 value := rfl
  rw [decode, hcut, (decodeValue_dropLast h).1, revisionOf]
  split_ifs <;> rfl

/-- Outcomes tell how many digits there were: an error by its number, a revision by its length. -/
theorem revisionOf_eq_iff {m n : Nat} (hm : m % 2 = 0 → m ≤ 2 * bytes.length)
    (hn : n % 2 = 0 → n ≤ 2 * bytes.length) :
    revisionOf bytes m = revisionOf bytes n ↔ m = n := by
  refine ⟨fun h ↦ ?_, fun h ↦ by rw [h]⟩
  unfold revisionOf at h
  split_ifs at h with hodd hodd' hodd'
  · exact DecodeError.oddHexLength.inj (Except.error.inj h)
  · have htext := Reading.firmwareRevision.inj (Except.ok.inj h)
    have hlength := congrArg (·.toList.length) htext
    simp only [byteText, String.toList_ofList, List.length_map, List.length_take] at hlength
    have hm' := hm (by omega)
    have hn' := hn (by omega)
    omega

/-- Texts whose last byte stands behind a separator. -/
def LastByteApart (value : String) : Prop :=
  ∃ front separator high low, value.toList = front ++ [separator, high, low] ∧
    isSeparator separator ∧ IsDigit high ∧ IsDigit low

theorem keptDigits_of_lastByteApart (h : IsValue value.toList bytes)
    (hapart : LastByteApart value) : keptDigits value = 2 * (bytes.length - 1) := by
  obtain ⟨front, separator, high, low, hvalue, hseparator, hhigh, hlow⟩ := hapart
  obtain ⟨x, hx⟩ := (exists_value?_iff high).mpr hhigh
  obtain ⟨y, hy⟩ := (exists_value?_iff low).mpr hlow
  have hcut : (dropLast 3 value).toList = front := by
    rw [toList_dropLast, hvalue, List.length_append]
    exact List.take_left
  have hnone : 'x' ∉ [separator, high, low] := by
    simp only [List.mem_cons, List.not_mem_nil, or_false, not_or]
    refine ⟨?_, ?_, ?_⟩ <;> rintro rfl
    · exact absurd hseparator (by decide)
    · exact absurd hx (by rw [show value? 'x' = none from rfl]; simp)
    · exact absurd hy (by rw [show value? 'x' = none from rfl]; simp)
  have hlast : unspaced [separator, high, low] = [high, low] := by
    rw [unspaced, List.filter_cons_of_neg (by rw [hseparator]; decide), ← unspaced,
      unspaced_cons_of_not (not_isSeparator_of_value? hx),
      unspaced_cons_of_not (not_isSeparator_of_value? hy)]
    rfl
  have hread := spells_clean_iff.mp (spells_clean_iff_isValue.mpr h)
  have hlength := length_of_decode? hread
  rw [hvalue, cleanChars_append hnone, hlast, List.length_append] at hlength
  rw [keptDigits, hcut]
  change (cleanChars front).length + 2 = 2 * bytes.length at hlength
  omega

theorem decode_of_lastByteApart (calibration : Option Calibration) (h : IsValue value.toList bytes)
    (hapart : LastByteApart value) :
    decode .firmwareRevision value .cc2541 calibration =
      .ok (.firmwareRevision (byteText bytes.dropLast)) := by
  rw [decode_cutText calibration h, keptDigits_of_lastByteApart h hapart, revisionOf,
    if_neg (by omega), Nat.mul_div_cancel_left _ (by decide), ← List.dropLast_eq_take]

/-! ## All values -/

theorem decode_eq_iff (calibration : Option Calibration) (hs : IsValue s.toList bytes)
    (ht : IsValue t.toList bytes) :
    decode sensor s firmware calibration = decode sensor t firmware calibration ↔
      (CutsText sensor firmware → keptDigits s = keptDigits t) := by
  by_cases hcuts : CutsText sensor firmware
  · obtain ⟨rfl, rfl⟩ := hcuts
    rw [decode_cutText calibration hs, decode_cutText calibration ht,
      revisionOf_eq_iff (decodeValue_dropLast hs).2 (decodeValue_dropLast ht).2]
    exact ⟨fun h _ ↦ h, fun h ↦ h ⟨rfl, rfl⟩⟩
  · rw [decode_of_isValue hcuts calibration hs, decode_of_isValue hcuts calibration ht]
    exact ⟨fun _ h ↦ absurd h hcuts, fun _ ↦ rfl⟩

/-- Pieces of a value that have the same reading are the same request. -/
theorem line_of_decode_eq {r : SensorTagRequest} {pieces : List String}
    (h : ∀ calibration, decode r.sensor (" ".intercalate pieces) r.firmware calibration =
      decode r.sensor r.value r.firmware calibration) :
    ({ r with pieces := pieces } : SensorTagRequest).line = r.line := by
  rw [SensorTagRequest.line, SensorTagRequest.lineOf_pieces]
  exact congrArg r.lineOf (funext h)

/-- The revision `1.5` with its zero byte, written together. -/
theorem decode_ne_of_joined :
    IsValue "31 2e 35 00".toList [0x31, 0x2E, 0x35, 0] ∧
    IsValue "312e3500".toList [0x31, 0x2E, 0x35, 0] ∧
    decode .firmwareRevision "31 2e 35 00" .cc2541 none = .ok (.firmwareRevision "1.5") ∧
    decode .firmwareRevision "312e3500" .cc2541 none = .error (.oddHexLength 5) := by
  have hspaced : IsValue "31 2e 35 00".toList [0x31, 0x2E, 0x35, 0] :=
    spells_clean_iff_isValue.mp (spells_clean_iff.mpr (by decide))
  have hjoined : IsValue "312e3500".toList [0x31, 0x2E, 0x35, 0] :=
    spells_clean_iff_isValue.mp (spells_clean_iff.mpr (by decide))
  have hapart : LastByteApart "31 2e 35 00" :=
    ⟨"31 2e 35".toList, ' ', '0', '0', rfl, by decide, by decide, by decide⟩
  refine ⟨hspaced, hjoined, decode_of_lastByteApart none hspaced hapart, ?_⟩
  have hkept : keptDigits "312e3500" = 5 := by decide
  rw [decode_cutText none hjoined, hkept]
  rfl

/-- Two spellings of a value have the same reading, whatever the sensor, unless its text is cut off;
then they have exactly if the same number of digits is left, as for all spellings whose last byte
stands apart.  So it makes no other difference how a value is given in pieces. -/
theorem decode_eq_iff_keptDigits_eq (hs : IsValue s.toList bytes) (ht : IsValue t.toList bytes) :
    (∀ sensor firmware calibration,
      decode sensor s firmware calibration = decode sensor t firmware calibration ↔
        (CutsText sensor firmware → keptDigits s = keptDigits t)) ∧
    (LastByteApart s → ∀ calibration, decode .firmwareRevision s .cc2541 calibration =
      .ok (.firmwareRevision (byteText bytes.dropLast))) ∧
    ∀ (r : SensorTagRequest) (pieces : List String), r.value = s → " ".intercalate pieces = t →
      (CutsText r.sensor r.firmware → keptDigits s = keptDigits t) →
      ({ r with pieces := pieces } : SensorTagRequest).run.result = r.run.result ∧
      ∀ stream, Effect.written stream ({ r with pieces := pieces } : SensorTagRequest).run.effects =
        Effect.written stream r.run.effects := by
  refine ⟨fun sensor firmware calibration ↦ decode_eq_iff calibration hs ht,
    fun hapart calibration ↦ decode_of_lastByteApart calibration hs hapart, ?_⟩
  rintro r pieces rfl rfl hkept
  have hline := line_of_decode_eq fun calibration ↦
    ((decode_eq_iff calibration hs ht).mpr hkept).symm
  constructor
  · rw [SensorTagRequest.result_run, SensorTagRequest.result_run, hline]
  · intro stream
    rw [SensorTagRequest.written_run, SensorTagRequest.written_run, hline]

/-- A request for a revision in four pieces. -/
def revisionInPieces : SensorTagRequest :=
  ⟨.firmwareRevision, ["31", "2e", "35", "00"], none, none, none, "sensortag"⟩

theorem decode_eq_iff_keptDigits_eq_pieces :
    IsValue "31 2e 35 00".toList [0x31, 0x2E, 0x35, 0] ∧
    IsValue "0x31:2E 3 5:00".toList [0x31, 0x2E, 0x35, 0] ∧
    decode .firmwareRevision "31 2e 35 00" .cc2541 none =
      decode .firmwareRevision "0x31:2E 3 5:00" .cc2541 none ∧
    decode .firmwareRevision "0x31:2E 3 5:00" .cc2541 none = .ok (.firmwareRevision "1.5") ∧
    ({ revisionInPieces with pieces := ["0x31:2E", "3", "5:00"] } : SensorTagRequest).run.result =
      revisionInPieces.run.result := by
  have hspaced : IsValue "31 2e 35 00".toList [0x31, 0x2E, 0x35, 0] :=
    spells_clean_iff_isValue.mp (spells_clean_iff.mpr (by decide))
  have hmarked : IsValue "0x31:2E 3 5:00".toList [0x31, 0x2E, 0x35, 0] :=
    spells_clean_iff_isValue.mp (spells_clean_iff.mpr (by decide))
  have hapart : LastByteApart "0x31:2E 3 5:00" :=
    ⟨"0x31:2E 3 5".toList, ':', '0', '0', rfl, by decide, by decide, by decide⟩
  have hkept : keptDigits "31 2e 35 00" = keptDigits "0x31:2E 3 5:00" := by decide
  obtain ⟨hsame, -, hpieces⟩ := decode_eq_iff_keptDigits_eq hspaced hmarked
  obtain ⟨-, hread, -⟩ := decode_eq_iff_keptDigits_eq hmarked hspaced
  exact ⟨hspaced, hmarked, (hsame .firmwareRevision .cc2541 none).mpr fun _ ↦ hkept,
    hread hapart none, (hpieces revisionInPieces _ rfl rfl fun _ ↦ hkept).1⟩

end SensorTag

end BleBeacon
