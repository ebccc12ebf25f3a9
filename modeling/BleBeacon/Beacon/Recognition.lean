import BleBeacon.AdStructure
import BleBeacon.Beacon.Basic

/-!
Finding a beacon in an advertising payload. The structures are looked at in order. Flags count when
they stand before the beacon; an Eddystone frame counts when its service has been listed before it.
A truncated structure is an error only if no beacon stands before it.
-/

namespace BleBeacon

def eddystoneService : Bytes := [0xAA, 0xFE]

-- The company, type and length that an iBeacon structure starts with.
def iBeaconHeader : Bytes := [0x4C, 0x00, 0x02, 0x15]

/-- The bytes of an iBeacon structure: header, identifier, major, minor and power. -/
def iBeaconLength : Nat := 25

-- The frame of an assigned type with this payload.
def decodeFrame (type : FrameType) (payload : Bytes) : Except DecodeError EddystoneFrame :=
  match type with
  | .uid =>
    if payload.length < 16 then .error (.tooShort 16 payload.length)
    else .ok (.uid (Hex.encode (payload.take 10)) (Hex.encode ((payload.drop 10).take 6)))
  | .url =>
    match payload with
    | [] => .error (.tooShort 1 0)
    | scheme :: body => .ok (.url (.ofCode scheme) (Url.decode body))
  | .tlm => .ok .tlm
  | .eid => .ok .eid
  | .reserved => .ok .reserved

/-- The beacon in the service data behind the Eddystone service. A frame type without a meaning is
no beacon. -/
def decodeServiceData (data : Bytes) (flags : AdFlags) : Except DecodeError (Option Beacon) :=
  match data with
  | code :: txPower :: payload =>
    match FrameType.ofCode? code with
    | none => .ok none
    | some type => do
      let frame ← decodeFrame type payload
      return some { Beacon.ofFrame (.eddystone frame) txPower.toInt8 with flags }
  | _ => .error (.tooShort 2 data.length)

-- The beacon in manufacturer data that starts with the header of iBeacons.
def decodeManufacturerData (data : Bytes) (flags : AdFlags) : Except DecodeError Beacon :=
  if h : data.length < iBeaconLength then .error (.tooShort iBeaconLength data.length)
  else
    let uuid : Uuid := ⟨Octets.ofTake (data.drop 4) 16 (by
      simp only [iBeaconLength] at h
      simp only [List.length_drop]
      omega)⟩
    let major := UInt16.ofNat (Bytes.beNat ((data.drop 20).take 2))
    let minor := UInt16.ofNat (Bytes.beNat ((data.drop 22).take 2))
    let txPower := (data.getD 24 0).toInt8
    .ok { Beacon.ofFrame (.iBeacon ⟨uuid, major, minor⟩) txPower with flags }

def AdFlags.after (flags : AdFlags) (s : AdStructure) : AdFlags :=
  if s.type = AdType.flags.code then
    match s.data with
    | b :: _ => .ofByte b
    | [] => flags
  else flags

-- Whether a structure lists the Eddystone service first.
def AdStructure.listsEddystone (s : AdStructure) : Bool :=
  s.type == AdType.serviceList.code && eddystoneService.isPrefixOf s.data

def AdStructure.isEddystoneData (s : AdStructure) : Bool :=
  s.type == AdType.serviceData.code && eddystoneService.isPrefixOf s.data

def AdStructure.isIBeaconData (s : AdStructure) : Bool :=
  s.type == AdType.manufacturerData.code && iBeaconHeader.isPrefixOf s.data

/-- The Eddystone beacon among the items, when `flags` hold and the service has or has not been
listed before them. -/
def findEddystone (flags : AdFlags) (listed : Bool) :
    List (Except DecodeError AdStructure) → Except DecodeError (Option Beacon)
  | [] => .ok none
  | .error e :: _ => .error e
  | .ok s :: rest =>
    if listed && s.isEddystoneData then decodeServiceData (s.data.drop 2) flags
    else findEddystone (flags.after s) (listed || s.listsEddystone) rest

-- The iBeacon among the items, when `flags` hold before them.
def findIBeacon (flags : AdFlags) :
    List (Except DecodeError AdStructure) → Except DecodeError (Option Beacon)
  | [] => .ok none
  | .error e :: _ => .error e
  | .ok s :: rest =>
    if s.isIBeaconData then (decodeManufacturerData s.data flags).map some
    else findIBeacon (flags.after s) rest

def BeaconKind.recognize (kind : BeaconKind) (payload : Bytes) :
    Except DecodeError (Option Beacon) :=
  match kind with
  | .eddystone => findEddystone .none false (adItems payload)
  | .iBeacon => findIBeacon .none (adItems payload)

end BleBeacon
