import BleBeacon.Line.Point
import BleBeacon.Beacon.Basic

/-!
Beacons as points in line protocol. The tags say which beacon it is, the fields what it carries.
-/

namespace BleBeacon

-- A beacon and the time at which its report was received.
structure Observation where
  beacon : Beacon
  -- Nanoseconds since the start of 1970.
  time : Int

namespace Observation

open Line

def frameFields : Frame → List (String × FieldValue)
  | .eddystone (.uid namespaceId instanceId) =>
    [("namespace", .text namespaceId), ("instance", .text instanceId)]
  | .eddystone (.url scheme body) => [("url", .text (scheme.text ++ body))]
  | .eddystone _ => []
  | .iBeacon b =>
    [("uuid", .text b.uuid.text), ("major", .integer b.major.toNat),
      ("minor", .integer b.minor.toNat)]

def tags (b : Beacon) : List (String × String) :=
  (match b.address with
    | some a => [("address", a.text)]
    | none => [])
  ++ [("kind", b.kind.name)]
  ++ match b.frame with
    | .eddystone frame => [("frame", frame.type.name)]
    | .iBeacon _ => []

def fields (b : Beacon) : List (String × FieldValue) :=
  (match b.rssi with
    | some rssi => [("rssi", .integer rssi.toInt)]
    | none => [])
  ++ [("tx_power", .integer b.txPower.toInt), ("flags", .integer b.flags.toByte.toNat)]
  ++ frameFields b.frame

def point (measurement : String) (o : Observation) : Point :=
  ⟨measurement, .ofList (tags o.beacon), .ofList (fields o.beacon), some o.time⟩

def line (measurement : String) (o : Observation) : String := (o.point measurement).render

end Observation

end BleBeacon
