import BleBeacon.Address
import BleBeacon.Uuid
import BleBeacon.Beacon.Url
import BleBeacon.Text.LetterCase

/-!
Beacons: what every beacon has in common, and the frame that tells the formats apart.
-/

namespace BleBeacon

structure AdFlags where
  leLimited : Bool
  leGeneral : Bool
  brEdrSupported : Bool
  -- Controller capable of both radios at once.
  leBrController : Bool
  -- Host capable of both radios at once.
  leBrHost : Bool
deriving DecidableEq, Repr

namespace AdFlags

-- No flag at all, as of an advertisement without a structure for flags.
def none : AdFlags := ⟨false, false, false, false, false⟩

def standard : AdFlags := ⟨false, true, false, true, true⟩

/-- The flags in a byte. Its top three bits do not matter. -/
def ofByte (b : UInt8) : AdFlags :=
  ⟨b.toNat.testBit 0, b.toNat.testBit 1, b.toNat.testBit 2, b.toNat.testBit 3,
    b.toNat.testBit 4⟩

-- The byte of the flags, with its top three bits zero.
def toByte (f : AdFlags) : UInt8 :=
  UInt8.ofNat (f.leLimited.toNat + 2 * f.leGeneral.toNat + 4 * f.brEdrSupported.toNat
    + 8 * f.leBrController.toNat + 16 * f.leBrHost.toNat)

theorem ofByte_toByte (f : AdFlags) : ofByte f.toByte = f := by
  rcases f with ⟨a, b, c, d, e⟩
  cases a <;> cases b <;> cases c <;> cases d <;> cases e <;> rfl

end AdFlags

inductive BeaconKind where
  | eddystone
  | iBeacon
deriving DecidableEq, Repr

def BeaconKind.name : BeaconKind → String
  | eddystone => "eddystone"
  | iBeacon => "ibeacon"

inductive FrameType where
  | uid
  | url
  | tlm
  | eid
  | reserved
deriving DecidableEq, Repr

namespace FrameType

def code : FrameType → UInt8
  | uid => 0x00
  | url => 0x10
  | tlm => 0x20
  | eid => 0x30
  | reserved => 0x40

def all : List FrameType := [.uid, .url, .tlm, .eid, .reserved]

-- The frame type for a code, if the code is assigned.
def ofCode? (code : UInt8) : Option FrameType := all.find? (·.code == code)

def name : FrameType → String
  | uid => "uid"
  | url => "url"
  | tlm => "tlm"
  | eid => "eid"
  | reserved => "reserved"

end FrameType

inductive EddystoneFrame where
  -- Ten and six bytes that identify the beacon, as digits.
  | uid (namespaceId instanceId : String)
  -- A URL, its scheme apart from the rest.
  | url (scheme : UrlScheme) (body : String)
  | tlm
  | eid
  | reserved
deriving DecidableEq, Repr

namespace EddystoneFrame

def ofUid (namespaceId instanceId : String) : EddystoneFrame :=
  .uid (lowercase namespaceId) (lowercase instanceId)

/-- A URL frame. A URL without a known scheme is kept whole, and such a frame cannot be encoded. -/
def ofUrl (url : String) : EddystoneFrame :=
  match UrlScheme.detect? url with
  | some scheme => .url scheme (String.ofList (url.toList.drop scheme.text.toList.length))
  | none => .url (.unknown 0xFF) url

def type : EddystoneFrame → FrameType
  | uid _ _ => .uid
  | url _ _ => .url
  | tlm => .tlm
  | eid => .eid
  | reserved => .reserved

def fullUrl? : EddystoneFrame → Option String
  | url scheme body => some (scheme.text ++ body)
  | _ => none

end EddystoneFrame

structure IBeacon where
  uuid : Uuid
  major : UInt16
  minor : UInt16
deriving DecidableEq

inductive Frame where
  | eddystone (frame : EddystoneFrame)
  | iBeacon (beacon : IBeacon)
deriving DecidableEq

structure Beacon where
  flags : AdFlags
  -- Calibrated power in dBm.
  txPower : Int8
  -- The strength it was received with.
  rssi : Option Int8
  address : Option DeviceAddress
  frame : Frame
deriving DecidableEq

namespace Beacon

def ofFrame (frame : Frame) (txPower : Int8) : Beacon :=
  { flags := .standard, txPower, rssi := none, address := none, frame }

def kind (b : Beacon) : BeaconKind :=
  match b.frame with
  | .eddystone _ => .eddystone
  | .iBeacon _ => .iBeacon

end Beacon

end BleBeacon
