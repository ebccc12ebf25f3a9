import Mathlib
import BleBeacon.Observation
import BleBeacon.Proofs.Address

/-!
# Lines of received beacons

The tags and fields of a received beacon are listed here in the order in which its line has them.
The device and the format stand in front, and can be told from the line alone.
-/

namespace BleBeacon

/-- The device and the format of what is observed. -/
def Observation.key (o : Observation) : Option DeviceAddress × BeaconKind :=
  (o.beacon.address, o.beacon.kind)

namespace Frame

open Line

/-- The tags between the address and the kind. -/
def innerTags : Frame → List (String × String)
  | .eddystone frame => [("frame", frame.type.name)]
  | .iBeacon _ => []

/-- The fields between the flags and the strength. -/
def innerFields : Frame → List (String × FieldValue)
  | .eddystone (.uid namespaceId instanceId) =>
    [("instance", .text instanceId), ("namespace", .text namespaceId)]
  | .iBeacon beacon =>
    [("major", .integer beacon.major.toNat), ("minor", .integer beacon.minor.toNat)]
  | _ => []

/-- The fields behind the power. -/
def lastFields : Frame → List (String × FieldValue)
  | .eddystone (.url scheme body) => [("url", .text (scheme.text ++ body))]
  | .iBeacon beacon => [("uuid", .text beacon.uuid.text)]
  | _ => []

end Frame

namespace Observation

open Line

variable {b : Beacon} {a : DeviceAddress} {rssi : Int8}

-- Tags and fields are put in order when a point is made; the cases compute the order.
theorem entries_tags (haddress : b.address = some a) :
    (KeyMap.ofList (tags b)).entries =
      ("address", a.text) :: (b.frame.innerTags ++ [("kind", b.kind.name)]) := by
  rcases b with ⟨flags, txPower, _, _, frame⟩
  cases haddress
  rcases frame with (_ | _ | _ | _ | _) | _ <;> rfl

theorem entries_fields (hrssi : b.rssi = some rssi) :
    (KeyMap.ofList (fields b)).entries =
      ("flags", .integer b.flags.toByte.toNat) :: (b.frame.innerFields ++
        ("rssi", .integer rssi.toInt) :: ("tx_power", .integer b.txPower.toInt) ::
          b.frame.lastFields) := by
  rcases b with ⟨flags, txPower, _, _, frame⟩
  cases hrssi
  rcases frame with (_ | _ | _ | _ | _) | _ <;> rfl

/-! ## Lines -/

def tagsText (tags : List (String × String)) : String :=
  String.join (tags.map fun (key, value) ↦ "," ++ key ++ "=" ++ value)

def fieldsText (fields : List (String × FieldValue)) : String :=
  ",".intercalate (fields.map fun (key, value) ↦ key ++ "=" ++ value.render)

/-- The time behind a line, which is left out before 1970. -/
def timeText (time : Int) : String := if 0 ≤ time then " " ++ toString time else ""

theorem line_eq (measurement : String) (o : Observation) :
    line measurement o = measurement ++ tagsText (KeyMap.ofList (tags o.beacon)).entries ++ " " ++
      fieldsText (KeyMap.ofList (fields o.beacon)).entries ++ timeText o.time :=
  rfl

/-- The line of a beacon that was received from `a` with the strength `rssi`. -/
theorem line_of_received (measurement : String) (haddress : b.address = some a)
    (hrssi : b.rssi = some rssi) (time : Int) :
    line measurement ⟨b, time⟩ = measurement ++
      tagsText (("address", a.text) :: (b.frame.innerTags ++ [("kind", b.kind.name)])) ++ " " ++
      fieldsText (("flags", .integer b.flags.toByte.toNat) :: (b.frame.innerFields ++
        ("rssi", .integer rssi.toInt) :: ("tx_power", .integer b.txPower.toInt) ::
          b.frame.lastFields)) ++ timeText time := by
  rw [line_eq, entries_tags haddress, entries_fields hrssi]

/-! ## Keys -/

-- Only one of the formats has a tag in front of the kind.
theorem kind_eq_of_tagsText {b b' : Beacon} {rest rest' : List Char}
    (h : (tagsText (b.frame.innerTags ++ [("kind", b.kind.name)])).toList ++ rest =
      (tagsText (b'.frame.innerTags ++ [("kind", b'.kind.name)])).toList ++ rest') :
    b.kind = b'.kind := by
  rcases b with ⟨flags, txPower, strength, address, frame⟩
  rcases b' with ⟨flags', txPower', strength', address', frame'⟩
  cases frame with
  | eddystone f =>
    cases frame' with
    | eddystone f' => rfl
    | iBeacon i' => simp [tagsText, Frame.innerTags] at h
  | iBeacon i =>
    cases frame' with
    | eddystone f' => simp [tagsText, Frame.innerTags] at h
    | iBeacon i' => rfl

theorem exists_line_eq (measurement : String) {o : Observation}
    (haddress : o.beacon.address = some a) :
    ∃ rest, (line measurement o).toList =
      measurement.toList ++ (",address=".toList ++ (a.chars ++
        ((tagsText (o.beacon.frame.innerTags ++ [("kind", o.beacon.kind.name)])).toList
          ++ rest))) := by
  refine ⟨(" " ++ fieldsText (KeyMap.ofList (fields o.beacon)).entries ++
    timeText o.time).toList, ?_⟩
  rw [line_eq, entries_tags haddress, tagsText, List.map_cons, String.join_cons]
  simp only [String.toList_append, List.append_assoc, DeviceAddress.text, String.toList_ofList]
  rfl

/-- The line of a received beacon tells its device and its format. -/
theorem key_eq_of_line_eq {measurement : String} {o o' : Observation} {a a' : DeviceAddress}
    (haddress : o.beacon.address = some a) (haddress' : o'.beacon.address = some a')
    (h : line measurement o = line measurement o') : o.key = o'.key := by
  obtain ⟨rest, hline⟩ := exists_line_eq measurement haddress
  obtain ⟨rest', hline'⟩ := exists_line_eq measurement haddress'
  rw [h, hline'] at hline
  -- Addresses are equally long, so the texts behind them start at the same place.
  have hbehind := List.append_cancel_left (List.append_cancel_left hline)
  obtain ⟨hchars, htags⟩ := List.append_inj hbehind (by
    rw [DeviceAddress.length_chars, DeviceAddress.length_chars])
  rw [key, key, haddress, haddress', DeviceAddress.chars_injective hchars,
    kind_eq_of_tagsText htags]

end Observation

end BleBeacon
