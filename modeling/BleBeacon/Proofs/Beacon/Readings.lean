import Mathlib
import BleBeacon.Proofs.Beacon.RoundTrip

/-!
# What the bytes of a beacon say

The layouts that each format reads, case by case, with the outcome of each.  Every byte string has
one of them, so that the decoders are the outcomes of these layouts and nothing else.
-/

namespace BleBeacon

/-! ## Service data -/

/-- The outcome for the service data behind the Eddystone service, by its frame code. -/
inductive EddystoneReading (flags : AdFlags) :
    Bytes → Except DecodeError (Option Beacon) → Prop where
  | short {data : Bytes} (h : data.length < 2) :
    EddystoneReading flags data (.error (.tooShort 2 data.length))
  | unassigned {code power : UInt8} {payload : Bytes}
      (h : code ∉ ([0x00, 0x10, 0x20, 0x30, 0x40] : List UInt8)) :
    EddystoneReading flags (code :: power :: payload) (.ok none)
  | shortUid {power : UInt8} {payload : Bytes} (h : payload.length < 16) :
    EddystoneReading flags (0x00 :: power :: payload) (.error (.tooShort 16 payload.length))
  | uid {power : UInt8} {high low rest : Bytes} (hhigh : high.length = 10) (hlow : low.length = 6) :
    EddystoneReading flags (0x00 :: power :: (high ++ low ++ rest))
      (.ok (some ⟨flags, power.toInt8, none, none,
        .eddystone (.uid (Hex.encode high) (Hex.encode low))⟩))
  | shortUrl {power : UInt8} : EddystoneReading flags [0x10, power] (.error (.tooShort 1 0))
  | url {power scheme : UInt8} {body : Bytes} :
    EddystoneReading flags (0x10 :: power :: scheme :: body)
      (.ok (some ⟨flags, power.toInt8, none, none,
        .eddystone (.url (.ofCode scheme) (Url.decode body))⟩))
  | bare {code power : UInt8} {payload : Bytes} {frame : EddystoneFrame}
      (h : (code, frame) ∈
        [((0x20 : UInt8), EddystoneFrame.tlm), (0x30, .eid), (0x40, .reserved)]) :
    EddystoneReading flags (code :: power :: payload)
      (.ok (some ⟨flags, power.toInt8, none, none, .eddystone frame⟩))

theorem FrameType.ofCode?_eq_none {code : UInt8}
    (h : code ∉ ([0x00, 0x10, 0x20, 0x30, 0x40] : List UInt8)) : ofCode? code = none := by
  refine List.find?_eq_none.mpr fun type _ hcode ↦ h ?_
  rw [← eq_of_beq hcode]
  cases type <;> decide

variable {flags : AdFlags} {data : Bytes} {result : Except DecodeError (Option Beacon)}

theorem EddystoneReading.decode_eq (h : EddystoneReading flags data result) :
    decodeServiceData data flags = result := by
  cases h with
  | short h =>
    match data, h with
    | [], _ => rfl
    | [_], _ => rfl
  | unassigned h => rw [decodeServiceData, FrameType.ofCode?_eq_none h]
  | shortUid h =>
    rw [decodeServiceData, show FrameType.ofCode? 0x00 = some .uid from rfl]
    simp only [decodeFrame]
    rw [if_pos h]
    rfl
  | @uid _ _ _ rest hhigh hlow =>
    rw [decodeServiceData, show FrameType.ofCode? 0x00 = some .uid from rfl]
    simp only [decodeFrame_uid hhigh hlow rest]
    rfl
  | shortUrl => rfl
  | url => rfl
  | bare h =>
    simp only [List.mem_cons, Prod.mk.injEq, List.not_mem_nil, or_false] at h
    rcases h with ⟨rfl, rfl⟩ | ⟨rfl, rfl⟩ | ⟨rfl, rfl⟩ <;> rfl

theorem exists_eddystoneReading (flags : AdFlags) (data : Bytes) :
    ∃ result, EddystoneReading flags data result := by
  match data with
  | [] => exact ⟨_, .short (by decide)⟩
  | [b] => exact ⟨_, .short (show 1 < 2 by decide)⟩
  | code :: power :: payload =>
    by_cases hcode : code ∈ ([0x00, 0x10, 0x20, 0x30, 0x40] : List UInt8)
    · simp only [List.mem_cons, List.not_mem_nil, or_false] at hcode
      rcases hcode with rfl | rfl | rfl | rfl | rfl
      · by_cases hshort : payload.length < 16
        · exact ⟨_, .shortUid hshort⟩
        · obtain ⟨high, back, rfl, hhigh⟩ :=
            Bytes.exists_append_of_le_length (show 10 ≤ payload.length by omega)
          rw [List.length_append] at hshort
          obtain ⟨low, rest, rfl, hlow⟩ :=
            Bytes.exists_append_of_le_length (show 6 ≤ back.length by omega)
          rw [← List.append_assoc]
          exact ⟨_, .uid hhigh hlow⟩
      · cases payload with
        | nil => exact ⟨_, .shortUrl⟩
        | cons scheme body => exact ⟨_, .url⟩
      · exact ⟨_, .bare (show (_, EddystoneFrame.tlm) ∈ _ by decide)⟩
      · exact ⟨_, .bare (show (_, EddystoneFrame.eid) ∈ _ by decide)⟩
      · exact ⟨_, .bare (show (_, EddystoneFrame.reserved) ∈ _ by decide)⟩
    · exact ⟨_, .unassigned hcode⟩

theorem decodeServiceData_eq_iff :
    decodeServiceData data flags = result ↔ EddystoneReading flags data result := by
  refine ⟨?_, EddystoneReading.decode_eq⟩
  rintro rfl
  obtain ⟨result, hreading⟩ := exists_eddystoneReading flags data
  rw [hreading.decode_eq]
  exact hreading

/-! ## Manufacturer data -/

/-- The outcome for manufacturer data whose first four bytes are the header of iBeacons. -/
inductive IBeaconReading (flags : AdFlags) : Bytes → Except DecodeError (Option Beacon) → Prop where
  | short {data : Bytes} (h : data.length < 25) :
    IBeaconReading flags data (.error (.tooShort 25 data.length))
  | beacon {beacon : IBeacon} {power : Int8} {header rest : Bytes} (hheader : header.length = 4) :
    IBeaconReading flags (header ++ (beacon.content power ++ rest))
      (.ok (some ⟨flags, power, none, none, .iBeacon beacon⟩))

theorem IBeaconReading.decode_eq (h : IBeaconReading flags data result) :
    (decodeManufacturerData data flags).map some = result := by
  cases h with
  | short h =>
    rw [decodeManufacturerData, dif_pos (show data.length < iBeaconLength from h)]
    rfl
  | beacon hheader =>
    rw [decodeManufacturerData_append flags _ _ hheader]
    rfl

theorem exists_iBeaconReading (flags : AdFlags) (data : Bytes) :
    ∃ result, IBeaconReading flags data result := by
  by_cases hshort : data.length < 25
  · exact ⟨_, .short hshort⟩
  -- Field by field, what remains is long enough for the next one.
  · obtain ⟨header, back, rfl, hheader⟩ := Bytes.exists_append_of_le_length
      (show 4 ≤ data.length by omega)
    rw [List.length_append] at hshort
    obtain ⟨uuid, back, rfl, huuid⟩ := Bytes.exists_append_of_le_length
      (show 16 ≤ back.length by omega)
    rw [List.length_append] at hshort
    obtain ⟨major, back, rfl, hmajor⟩ := Bytes.exists_append_of_le_length
      (show 2 ≤ back.length by omega)
    rw [List.length_append] at hshort
    obtain ⟨minor, back, rfl, hminor⟩ := Bytes.exists_append_of_le_length
      (show 2 ≤ back.length by omega)
    rw [List.length_append] at hshort
    cases back with
    | nil =>
      rw [List.length_nil] at hshort
      omega
    | cons power rest =>
      have hcontent : uuid ++ (major ++ (minor ++ power :: rest)) =
          IBeacon.content ⟨⟨⟨uuid, huuid⟩⟩, .ofNat (Bytes.beNat major), .ofNat (Bytes.beNat minor)⟩
            power.toInt8 ++ rest := by
        rw [IBeacon.content]
        dsimp only
        rw [Bytes.ofNatBE_toUInt16_beNat hmajor, Bytes.ofNatBE_toUInt16_beNat hminor,
          UInt8.toUInt8_toInt8]
        simp [Uuid.bytes]
      rw [hcontent]
      exact ⟨_, .beacon hheader⟩

theorem decodeManufacturerData_eq_iff :
    (decodeManufacturerData data flags).map some = result ↔ IBeaconReading flags data result := by
  refine ⟨?_, IBeaconReading.decode_eq⟩
  rintro rfl
  obtain ⟨result, hreading⟩ := exists_iBeaconReading flags data
  rw [hreading.decode_eq]
  exact hreading

end BleBeacon
