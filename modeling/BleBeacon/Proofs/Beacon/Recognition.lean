import Mathlib
import BleBeacon.Beacon.Recognition

/-!
# Where a recognised beacon comes from

A beacon that is found stands in one structure of the payload, and all of it but its flags is read
from that structure.  So it has the kind that was looked for, and says nothing of a reception.
-/

namespace BleBeacon

/-- A frame of a recognised beacon is read from service data behind its type and power. -/
theorem decodeServiceData_eq_some {data : Bytes} {flags : AdFlags} {b : Beacon}
    (h : decodeServiceData data flags = .ok (some b)) :
    ∃ type power payload frame, data = FrameType.code type :: power :: payload ∧
      decodeFrame type payload = .ok frame ∧
      b = ⟨flags, power.toInt8, none, none, .eddystone frame⟩ := by
  unfold decodeServiceData at h
  split at h
  · rename_i code power payload
    cases htype : FrameType.ofCode? code with
    | none =>
      rw [htype] at h
      cases h
    | some type =>
      rw [htype] at h
      cases hframe : decodeFrame type payload with
      | error e =>
        simp only [hframe] at h
        cases h
      | ok frame =>
        simp only [hframe] at h
        cases h
        have hcode : type.code = code := by
          have hfind := List.find?_some htype
          exact eq_of_beq hfind
        exact ⟨type, power, payload, frame, by rw [hcode], hframe, rfl⟩
  · cases h

theorem decodeManufacturerData_eq_ok {data : Bytes} {flags : AdFlags} {b : Beacon}
    (h : decodeManufacturerData data flags = .ok b) :
    ∃ power beacon, b = ⟨flags, power, none, none, .iBeacon beacon⟩ := by
  unfold decodeManufacturerData at h
  split at h
  · cases h
  · cases h
    exact ⟨_, _, rfl⟩

theorem findEddystone_eq_some {flags : AdFlags} {listed : Bool}
    {items : List (Except DecodeError AdStructure)} {b : Beacon}
    (h : findEddystone flags listed items = .ok (some b)) :
    ∃ s, .ok s ∈ items ∧ s.isEddystoneData ∧
      decodeServiceData (s.data.drop 2) b.flags = .ok (some b) := by
  induction items generalizing flags listed with
  | nil => cases h
  | cons item rest ih =>
    cases item with
    | error e => cases h
    | ok s =>
      rw [findEddystone] at h
      split at h
      · rename_i hfound
        rw [Bool.and_eq_true] at hfound
        have hflags : b.flags = flags := by
          rcases decodeServiceData_eq_some h with ⟨_, _, _, _, _, _, rfl⟩
          rfl
        exact ⟨s, List.mem_cons_self, hfound.2, by rw [hflags, h]⟩
      · rcases ih h with ⟨s', hmem, hdata, hdecode⟩
        exact ⟨s', List.mem_cons_of_mem _ hmem, hdata, hdecode⟩

theorem findIBeacon_eq_some {flags : AdFlags} {items : List (Except DecodeError AdStructure)}
    {b : Beacon} (h : findIBeacon flags items = .ok (some b)) :
    ∃ s, .ok s ∈ items ∧ s.isIBeaconData ∧ decodeManufacturerData s.data b.flags = .ok b := by
  induction items generalizing flags with
  | nil => cases h
  | cons item rest ih =>
    cases item with
    | error e => cases h
    | ok s =>
      rw [findIBeacon] at h
      split at h
      · rename_i hfound
        cases hdecode : decodeManufacturerData s.data flags with
        | error e =>
          rw [hdecode] at h
          cases h
        | ok b' =>
          rw [hdecode] at h
          cases h
          have hflags : b.flags = flags := by
            rcases decodeManufacturerData_eq_ok hdecode with ⟨_, _, rfl⟩
            rfl
          exact ⟨s, List.mem_cons_self, hfound, by rw [hflags, hdecode]⟩
      · rcases ih h with ⟨s', hmem, hdata, hdecode⟩
        exact ⟨s', List.mem_cons_of_mem _ hmem, hdata, hdecode⟩

/-- A recognised beacon has the kind that was looked for, and neither address nor strength. -/
theorem BeaconKind.recognize_eq_some {kind : BeaconKind} {payload : Bytes} {b : Beacon}
    (h : kind.recognize payload = .ok (some b)) :
    b.kind = kind ∧ b.address = none ∧ b.rssi = none := by
  cases kind with
  | eddystone =>
    rcases findEddystone_eq_some h with ⟨s, -, -, hdecode⟩
    rcases decodeServiceData_eq_some hdecode with ⟨_, _, _, _, -, -, hb⟩
    rw [hb]
    exact ⟨rfl, rfl, rfl⟩
  | iBeacon =>
    rcases findIBeacon_eq_some h with ⟨s, -, -, hdecode⟩
    rcases decodeManufacturerData_eq_ok hdecode with ⟨_, _, hb⟩
    rw [hb]
    exact ⟨rfl, rfl, rfl⟩

end BleBeacon
