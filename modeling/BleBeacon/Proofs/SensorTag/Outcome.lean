import Mathlib
import BleBeacon.SensorTag.Decode
import BleBeacon.Proofs.Field
import BleBeacon.Proofs.Text.Hex

/-!
# What decoding a sensor value comes to

The number of bytes of a value, the sensor and the generation tell whether the value is decoded and
what is wrong with it otherwise.  A reading is made of a few bytes at places of its own; what stands
around them makes no difference to it.  Nothing is said about the formulas.
-/

namespace BleBeacon.SensorTag

open BleBeacon.Field

theorem not_isInvalidHex_of_overrun? {places : List Place} {n : Nat} {e : DecodeError}
    (h : overrun? places n = some e) : ¬ e.IsInvalidHex := by
  rcases Option.map_eq_some_iff.mp h with ⟨p, -, rfl⟩
  exact id

theorem not_isInvalidHex_of_shortage? {width n : Nat} {e : DecodeError}
    (h : shortage? width n = some e) : ¬ e.IsInvalidHex := by
  unfold shortage? at h
  split at h
  · cases h
    exact id
  · cases h

namespace Sensor

/-- The places that are read of a value of `n` bytes, in this order. -/
def places (sensor : Sensor) (firmware : Firmware) (n : Nat) : List Place :=
  match sensor, firmware with
  | .temperature, _ => [⟨2, 2⟩, ⟨0, 2⟩]
  | .accelerometer, .cc2650 => [⟨6, 2⟩, ⟨8, 2⟩, ⟨10, 2⟩]
  | .accelerometer, .cc2541 => [⟨0, 3⟩]
  | .humidity, _ => [⟨2, 2⟩]
  | .magnetometer, .cc2650 => [⟨12, 2⟩, ⟨14, 2⟩, ⟨16, 2⟩]
  | .magnetometer, .cc2541 => [⟨0, 2⟩, ⟨2, 2⟩, ⟨4, 2⟩]
  | .barometer, .cc2650 => if 4 < n then [⟨3, 3⟩] else [⟨2, 2⟩]
  | .barometer, .cc2541 => [⟨0, 2⟩, ⟨2, 2⟩]
  | .gyroscope, _ => [⟨0, 2⟩, ⟨2, 2⟩, ⟨4, 2⟩]
  | .light, _ => [⟨0, 2⟩]
  | .keys, _ => [⟨0, 1⟩]
  | .firmwareRevision, _ => []

/-- What is wrong with a value of `n` bytes. -/
def fault? (sensor : Sensor) (firmware : Firmware) (calibration : Option Calibration) (n : Nat) :
    Option DecodeError :=
  match sensor, firmware, calibration with
  | .barometer, .cc2541, none => some (.missingCalibration .cc2541)
  | .accelerometer, .cc2541, _ => shortage? 3 n
  | .keys, _, _ => shortage? 1 n
  | _, _, _ => overrun? (sensor.places firmware n) n

/-- Values that are decoded, by the number of their bytes. -/
def Fits (sensor : Sensor) (firmware : Firmware) (calibration : Option Calibration) (n : Nat) :
    Prop :=
  match sensor, firmware with
  | .temperature, _ => 4 ≤ n
  | .accelerometer, .cc2650 => 12 ≤ n
  | .accelerometer, .cc2541 => 3 ≤ n
  | .humidity, _ => 4 ≤ n
  | .magnetometer, .cc2650 => 18 ≤ n
  | .magnetometer, .cc2541 => 6 ≤ n
  | .barometer, .cc2650 => n = 4 ∨ 6 ≤ n
  | .barometer, .cc2541 => (∃ c, calibration = some c) ∧ 4 ≤ n
  | .gyroscope, _ => 6 ≤ n
  | .light, _ => 2 ≤ n
  | .keys, _ => 1 ≤ n
  | .firmwareRevision, _ => True

/-- The bytes of a value of `n` bytes that its reading is made of. -/
def window (sensor : Sensor) (firmware : Firmware) (n : Nat) : Place :=
  match sensor, firmware with
  | .temperature, _ => ⟨0, 4⟩
  | .accelerometer, .cc2650 => ⟨6, 6⟩
  | .accelerometer, .cc2541 => ⟨0, 3⟩
  | .humidity, _ => ⟨2, 2⟩
  | .magnetometer, .cc2650 => ⟨12, 6⟩
  | .magnetometer, .cc2541 => ⟨0, 6⟩
  | .barometer, .cc2650 => if n = 4 then ⟨2, 2⟩ else ⟨3, 3⟩
  | .barometer, .cc2541 => ⟨0, 4⟩
  | .gyroscope, _ => ⟨0, 6⟩
  | .light, _ => ⟨0, 2⟩
  | .keys, _ => ⟨0, 1⟩
  | .firmwareRevision, _ => ⟨0, n⟩

variable {sensor : Sensor} {firmware : Firmware} {calibration : Option Calibration} {n n' : Nat}

theorem fault?_eq_none_iff (hsensor : sensor ≠ .firmwareRevision) :
    sensor.fault? firmware calibration n = none ↔ sensor.Fits firmware calibration n := by
  cases sensor with
  | temperature => exact overrun?_eq_none_iff _ n
  | accelerometer =>
    cases firmware with
    | cc2650 => exact overrun?_eq_none_iff _ n
    | cc2541 => exact shortage?_eq_none_iff 3 n
  | humidity => exact overrun?_eq_none_iff _ n
  | magnetometer => cases firmware <;> exact overrun?_eq_none_iff _ n
  | barometer =>
    cases firmware with
    | cc2650 =>
      change overrun? (if 4 < n then [⟨3, 3⟩] else [⟨2, 2⟩]) n = none ↔ n = 4 ∨ 6 ≤ n
      by_cases hlong : 4 < n
      · rw [if_pos hlong, overrun?_eq_none_iff, show extent [⟨3, 3⟩] = 6 from rfl]
        omega
      · rw [if_neg hlong, overrun?_eq_none_iff, show extent [⟨2, 2⟩] = 4 from rfl]
        omega
    | cc2541 =>
      cases calibration with
      | none => exact ⟨fun h ↦ (nomatch h), fun h ↦ (nomatch h.1.choose_spec)⟩
      | some c =>
        refine (overrun?_eq_none_iff _ n).trans ?_
        exact ⟨fun h ↦ ⟨⟨c, rfl⟩, h⟩, fun h ↦ h.2⟩
  | gyroscope => exact overrun?_eq_none_iff _ n
  | light => exact overrun?_eq_none_iff _ n
  | keys => exact shortage?_eq_none_iff 1 n
  | firmwareRevision => exact absurd rfl hsensor

/-- Nothing that is wrong with the bytes of a value is told as if its text were no value at all. -/
theorem not_isInvalidHex_of_fault? {e : DecodeError}
    (h : sensor.fault? firmware calibration n = some e) : ¬ e.IsInvalidHex := by
  unfold fault? at h
  split at h
  · cases h
    exact id
  · exact not_isInvalidHex_of_shortage? h
  · exact not_isInvalidHex_of_shortage? h
  · exact not_isInvalidHex_of_overrun? h

/-- Of values that are decoded, the window tells which places are read. -/
theorem places_eq_of_window_eq (h : sensor.Fits firmware calibration n)
    (h' : sensor.Fits firmware calibration n')
    (hwindow : sensor.window firmware n = sensor.window firmware n') :
    sensor.places firmware n = sensor.places firmware n' := by
  cases sensor with
  | barometer =>
    cases firmware with
    | cc2650 =>
      change n = 4 ∨ 6 ≤ n at h
      change n' = 4 ∨ 6 ≤ n' at h'
      change (if n = 4 then _ else _) = if n' = 4 then _ else _ at hwindow
      change (if 4 < n then _ else _) = if 4 < n' then _ else _
      by_cases hfour : n = 4
      · by_cases hfour' : n' = 4
        · rw [hfour, hfour']
        · rw [if_pos hfour, if_neg hfour'] at hwindow
          cases hwindow
      · by_cases hfour' : n' = 4
        · rw [if_neg hfour, if_pos hfour'] at hwindow
          cases hwindow
        · rw [if_pos (by omega), if_pos (by omega)]
    | cc2541 => rfl
  | accelerometer => cases firmware <;> rfl
  | magnetometer => cases firmware <;> rfl
  | _ => rfl

theorem within_window (h : sensor.Fits firmware calibration n) :
    ∀ p ∈ sensor.places firmware n, p.Within (sensor.window firmware n) := by
  cases sensor with
  | barometer =>
    cases firmware with
    | cc2650 =>
      apply Place.within_of_all
      unfold places window
      rcases h with rfl | hlong
      · rfl
      · simp only [if_pos (show 4 < n by omega), if_neg (show ¬ n = 4 by omega)]
        rfl
    | cc2541 => exact Place.within_of_all rfl
  | accelerometer => cases firmware <;> exact Place.within_of_all rfl
  | magnetometer => cases firmware <;> exact Place.within_of_all rfl
  | _ => exact Place.within_of_all rfl

end Sensor

/-! ## The decoders -/

theorem reads_temperature (firmware : Firmware) :
    Reads (overrun? [⟨2, 2⟩, ⟨0, 2⟩]) (fun _ ↦ [⟨2, 2⟩, ⟨0, 2⟩]) (temperature firmware) := by
  apply Reads.unsigned16
  intro ambient
  cases firmware with
  | cc2650 =>
    apply Reads.unsigned16
    intro object
    apply Reads.done
  | cc2541 =>
    apply Reads.signed16
    intro object
    apply Reads.done

theorem reads_acceleration_movement :
    Reads (overrun? [⟨6, 2⟩, ⟨8, 2⟩, ⟨10, 2⟩]) (fun _ ↦ [⟨6, 2⟩, ⟨8, 2⟩, ⟨10, 2⟩])
      (acceleration .cc2650) :=
  Reads.vector 6 8 10

theorem reads_acceleration_bytes :
    Reads (shortage? 3) (fun _ ↦ [⟨0, 3⟩]) (acceleration .cc2541) := by
  apply Reads.front 3 (.light 0)
  · intro bytes hshort
    match bytes with
    | [] | [_] | [_, _] => rfl
    | _ :: _ :: _ :: rest =>
      simp only [List.length_cons] at hshort
      omega
  · intro bytes hlong
    match bytes with
    | [] | [_] | [_, _] => simp at hlong
    | _ :: _ :: _ :: _ => exact ⟨_, rfl, rfl⟩

theorem reads_keys (firmware : Firmware) :
    Reads (shortage? 1) (fun _ ↦ [⟨0, 1⟩]) (keys firmware) := by
  apply Reads.front 1 (.light 0)
  · intro bytes hshort
    rw [List.eq_nil_of_length_eq_zero (Nat.lt_one_iff.mp hshort)]
    rfl
  · intro bytes hlong
    cases bytes with
    | nil => simp at hlong
    | cons status rest => cases firmware <;> exact ⟨_, rfl, rfl⟩

theorem reads_humidity (firmware : Firmware) :
    Reads (overrun? [⟨2, 2⟩]) (fun _ ↦ [⟨2, 2⟩]) (humidity firmware) := by
  apply Reads.unsigned16
  intro raw
  cases firmware <;> apply Reads.done

theorem reads_rotation (firmware : Firmware) :
    Reads (overrun? [⟨0, 2⟩, ⟨2, 2⟩, ⟨4, 2⟩]) (fun _ ↦ [⟨0, 2⟩, ⟨2, 2⟩, ⟨4, 2⟩])
      (rotation firmware) := by
  cases firmware <;> exact Reads.vector 0 2 4

theorem reads_magneticField_movement :
    Reads (overrun? [⟨12, 2⟩, ⟨14, 2⟩, ⟨16, 2⟩]) (fun _ ↦ [⟨12, 2⟩, ⟨14, 2⟩, ⟨16, 2⟩])
      (magneticField .cc2650) :=
  Reads.vector 12 14 16

theorem reads_magneticField_words :
    Reads (overrun? [⟨0, 2⟩, ⟨2, 2⟩, ⟨4, 2⟩]) (fun _ ↦ [⟨0, 2⟩, ⟨2, 2⟩, ⟨4, 2⟩])
      (magneticField .cc2541) :=
  Reads.vector 0 2 4

theorem reads_pressure_measured (calibration : Option Calibration) :
    Reads (fun n ↦ overrun? (if 4 < n then [⟨3, 3⟩] else [⟨2, 2⟩]) n)
      (fun n ↦ if 4 < n then [⟨3, 3⟩] else [⟨2, 2⟩]) (pressure .cc2650 calibration) := by
  apply Reads.ite 4 (by decide)
  · apply Reads.unsigned24
    intro raw
    apply Reads.done
  · apply Reads.unsigned16
    intro raw
    apply Reads.done

theorem reads_pressure_calibrated (c : Calibration) :
    Reads (overrun? [⟨0, 2⟩, ⟨2, 2⟩]) (fun _ ↦ [⟨0, 2⟩, ⟨2, 2⟩]) (pressure .cc2541 (some c)) := by
  apply Reads.signed16
  intro temperature
  apply Reads.unsigned16
  intro raw
  apply Reads.done

theorem reads_light : Reads (overrun? [⟨0, 2⟩]) (fun _ ↦ [⟨0, 2⟩]) light := by
  apply Reads.unsigned16
  intro raw
  apply Reads.done

/-- Every sensor reads the places that belong to it, and fails for what is wrong with them. -/
theorem reads_decodeBytes {sensor : Sensor} (hsensor : sensor ≠ .firmwareRevision)
    (firmware : Firmware) (calibration : Option Calibration) :
    Reads (sensor.fault? firmware calibration) (sensor.places firmware)
      (decodeBytes sensor firmware calibration) := by
  cases sensor with
  | temperature => exact reads_temperature firmware
  | accelerometer =>
    cases firmware with
    | cc2650 => exact reads_acceleration_movement
    | cc2541 => exact reads_acceleration_bytes
  | humidity => exact reads_humidity firmware
  | magnetometer =>
    cases firmware with
    | cc2650 => exact reads_magneticField_movement
    | cc2541 => exact reads_magneticField_words
  | barometer =>
    cases firmware with
    | cc2650 => exact reads_pressure_measured calibration
    | cc2541 =>
      cases calibration with
      | none => exact ⟨fun _ _ ↦ .light 0, fun _ ↦ rfl⟩
      | some c => exact reads_pressure_calibrated c
  | gyroscope => exact reads_rotation firmware
  | light => exact reads_light
  | keys => exact reads_keys firmware
  | firmwareRevision => exact absurd rfl hsensor

/-- The calibration is for the barometer of the older generation only. -/
theorem decodeBytes_calibration (sensor : Sensor) (firmware : Firmware)
    {calibration calibration' : Option Calibration}
    (h : sensor = .barometer → firmware = .cc2541 → calibration = calibration') (bytes : Bytes) :
    decodeBytes sensor firmware calibration bytes =
      decodeBytes sensor firmware calibration' bytes := by
  cases sensor with
  | barometer =>
    cases firmware with
    | cc2650 => rfl
    | cc2541 => rw [h rfl rfl]
  | _ => rfl

/-! ## Whole values -/

theorem relevantText_of_ne {sensor : Sensor} (hsensor : sensor ≠ .firmwareRevision)
    (firmware : Firmware) (value : String) : relevantText sensor firmware value = value := by
  cases sensor with
  | firmwareRevision => exact absurd rfl hsensor
  | _ => rfl

theorem decode_of_spells {sensor : Sensor} (hsensor : sensor ≠ .firmwareRevision)
    (firmware : Firmware) (calibration : Option Calibration) {value : String} {bytes : Bytes}
    (h : Hex.Spells (Hex.clean value) bytes) :
    decode sensor value firmware calibration = decodeBytes sensor firmware calibration bytes := by
  unfold decode
  rw [relevantText_of_ne hsensor, Hex.decodeValue, h.decode_eq]
  rfl

theorem decode_of_not_spells {sensor : Sensor} (hsensor : sensor ≠ .firmwareRevision)
    (firmware : Firmware) (calibration : Option Calibration) {value : String}
    (h : ¬ ∃ bytes, Hex.Spells (Hex.clean value) bytes) :
    ∃ e, e.IsInvalidHex ∧ decode sensor value firmware calibration = .error e := by
  cases hread : Hex.decode (Hex.clean value) with
  | ok bytes => exact absurd ⟨bytes, Hex.decode_eq_ok_iff.mp hread⟩ h
  | error e =>
    refine ⟨e, Hex.isInvalidHex_of_decode hread, ?_⟩
    unfold decode
    rw [relevantText_of_ne hsensor, Hex.decodeValue, hread]
    rfl

/-- A value that is not an even number of digits is refused before anything else.  Of others the
number of bytes decides: whether there is a reading, and what is wrong if there is none, which is
the first place that is not there unless the sensor asks for all bytes at once or for a calibration.
Readings of one sensor are the same if the bytes in their windows are, whatever the other bytes, and
the calibration matters to the barometer of the older generation alone. -/
theorem decode_outcome (sensor : Sensor) (hsensor : sensor ≠ .firmwareRevision)
    (firmware : Firmware) (calibration : Option Calibration) (value : String) :
    ((∃ e, e.IsInvalidHex ∧ decode sensor value firmware calibration = .error e) ↔
      ¬ ∃ n, Hex.AllDigits (2 * n) (Hex.clean value)) ∧
    ∀ n, Hex.AllDigits (2 * n) (Hex.clean value) →
      ((∃ r, decode sensor value firmware calibration = .ok r) ↔
        sensor.Fits firmware calibration n) ∧
      (∀ e, decode sensor value firmware calibration = .error e ↔
        sensor.fault? firmware calibration n = some e) ∧
      ∃ bytes, Hex.Spells (Hex.clean value) bytes ∧ bytes.length = n ∧
        ∀ r value' calibration' bytes' r', decode sensor value firmware calibration = .ok r →
          Hex.Spells (Hex.clean value') bytes' →
          decode sensor value' firmware calibration' = .ok r' →
          sensor.window firmware bytes'.length = sensor.window firmware n →
          (sensor.window firmware n).part bytes' = (sensor.window firmware n).part bytes →
          (sensor = .barometer → firmware = .cc2541 → calibration' = calibration) →
          r' = r := by
  have hreads := reads_decodeBytes hsensor firmware calibration
  refine ⟨⟨?_, ?_⟩, ?_⟩
  · rintro ⟨e, hinvalid, herror⟩ ⟨n, hdigits⟩
    rcases (Hex.allDigits_iff_exists_spells n _).mp hdigits with ⟨bytes, hspells, -⟩
    rw [decode_of_spells hsensor firmware calibration hspells, hreads.eq_error_iff] at herror
    exact Sensor.not_isInvalidHex_of_fault? herror hinvalid
  · intro hnone
    apply decode_of_not_spells hsensor
    rintro ⟨bytes, hspells⟩
    exact hnone ⟨bytes.length,
      (Hex.allDigits_iff_exists_spells _ _).mpr ⟨bytes, hspells, rfl⟩⟩
  · intro n hdigits
    rcases (Hex.allDigits_iff_exists_spells n _).mp hdigits with ⟨bytes, hspells, rfl⟩
    rw [decode_of_spells hsensor firmware calibration hspells]
    refine ⟨?_, hreads.eq_error_iff bytes, bytes, hspells, rfl, ?_⟩
    · rw [hreads.exists_ok_iff, Sensor.fault?_eq_none_iff hsensor]
    · intro r value' calibration' bytes' r' hr hspells' hr' hwindow hpart hcalibration
      rw [decode_of_spells hsensor firmware calibration' hspells',
        decodeBytes_calibration sensor firmware hcalibration] at hr'
      have hfits : sensor.Fits firmware calibration bytes.length :=
        (Sensor.fault?_eq_none_iff hsensor).mp ((hreads.exists_ok_iff bytes).mp ⟨r, hr⟩)
      have hfits' : sensor.Fits firmware calibration bytes'.length :=
        (Sensor.fault?_eq_none_iff hsensor).mp ((hreads.exists_ok_iff bytes').mp ⟨r', hr'⟩)
      apply hreads.ok_unique hr' hr (Sensor.places_eq_of_window_eq hfits' hfits hwindow)
      intro p hp
      apply Place.part_eq_of_within (Sensor.within_window hfits' p hp)
      rw [hwindow, hpart]

/-- Two spellings of pressures that agree in their last three bytes and in nothing else. -/
def longPressure : String := "0x ff ff ff 21 8a 01 77"

def sixBytePressure : String := "00:00:00:21:8A:01"

theorem decode_outcome_sixBytePressure :
    Sensor.barometer ≠ .firmwareRevision ∧
    Hex.AllDigits (2 * 6) (Hex.clean sixBytePressure) ∧
    Hex.AllDigits (2 * 7) (Hex.clean longPressure) ∧
    (∃ r, decode .barometer sixBytePressure .cc2650 none = .ok r ∧
      decode .barometer longPressure .cc2650 none = .ok r) ∧
    decode .barometer "00 00 00 21 8A" .cc2650 none = .error (.fieldOutOfRange 3 3 5) ∧
    decode .barometer "00" .cc2541 none = .error (.missingCalibration .cc2541) ∧
    ∃ e, e.IsInvalidHex ∧ decode .barometer "0" .cc2541 none = .error e := by
  have hsensor : Sensor.barometer ≠ .firmwareRevision := by decide
  have hsix : Hex.Spells (Hex.clean sixBytePressure) [0, 0, 0, 0x21, 0x8A, 1] :=
    Hex.spells_clean_iff.mpr (by decide)
  have hseven : Hex.Spells (Hex.clean longPressure) [255, 255, 255, 0x21, 0x8A, 1, 0x77] :=
    Hex.spells_clean_iff.mpr (by decide)
  have hfive : Hex.Spells (Hex.clean "00 00 00 21 8A") [0, 0, 0, 0x21, 0x8A] :=
    Hex.spells_clean_iff.mpr (by decide)
  have hone : Hex.Spells (Hex.clean "00") [0] := Hex.spells_clean_iff.mpr (by decide)
  have hodd : ¬ ∃ n, Hex.AllDigits (2 * n) (Hex.clean "0") := by
    rintro ⟨n, hdigits⟩
    rcases (Hex.allDigits_iff_exists_spells n _).mp hdigits with ⟨bytes, hspells, -⟩
    have hread := Hex.spells_clean_iff.mp hspells
    cases hread
  have houtcome := decode_outcome .barometer hsensor
  refine ⟨hsensor, hsix.allDigits, hseven.allDigits, ?_, ?_, ?_,
    (houtcome .cc2541 none "0").1.mpr hodd⟩
  · rcases (houtcome .cc2650 none sixBytePressure).2 6 hsix.allDigits with
      ⟨hfits, -, bytes, hspells, -, hunique⟩
    rcases (houtcome .cc2650 none longPressure).2 7 hseven.allDigits with ⟨hfits', -⟩
    rcases hfits.mpr (.inr (by decide)) with ⟨r, hr⟩
    rcases hfits'.mpr (.inr (by decide)) with ⟨r', hr'⟩
    have hbytes : bytes = [0, 0, 0, 0x21, 0x8A, 1] := Option.some.inj (hspells.symm.trans hsix)
    have hsame := hunique r longPressure none _ r' hr hseven hr' rfl (by rw [hbytes]; rfl)
      (fun _ _ ↦ rfl)
    exact ⟨r, hr, by rw [← hsame]; exact hr'⟩
  · exact (((houtcome .cc2650 none "00 00 00 21 8A").2 5 hfive.allDigits).2.1 _).mpr rfl
  · exact (((houtcome .cc2541 none "00").2 1 hone.allDigits).2.1 _).mpr rfl

end BleBeacon.SensorTag
