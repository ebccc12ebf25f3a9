import BleBeacon.Scan
import BleBeacon.SensorTag.Basic

/-!
What the program can be asked to do: scan, encode a beacon, or decode the value of a sensor.
-/

namespace BleBeacon

structure ScanRequest where
  source : SourceConfig
  settings : ScanSettings

inductive FrameRequest where
  | uid (namespaceId instanceId : String)
  | url (text : String)
  | iBeacon (beacon : IBeacon)
deriving DecidableEq

def FrameRequest.frame : FrameRequest → Frame
  | uid namespaceId instanceId => .eddystone (.ofUid namespaceId instanceId)
  | url text => .eddystone (.ofUrl text)
  | iBeacon beacon => .iBeacon beacon

-- Flags that are to differ from those that a beacon has by itself.
structure FlagOverrides where
  leLimited : Option Bool
  leGeneral : Option Bool
  brEdrSupported : Option Bool
  leBrController : Option Bool
  leBrHost : Option Bool
deriving DecidableEq, Repr

def FlagOverrides.apply (o : FlagOverrides) (f : AdFlags) : AdFlags where
  leLimited := o.leLimited.getD f.leLimited
  leGeneral := o.leGeneral.getD f.leGeneral
  brEdrSupported := o.brEdrSupported.getD f.brEdrSupported
  leBrController := o.leBrController.getD f.leBrController
  leBrHost := o.leBrHost.getD f.leBrHost

/-- How a beacon is handed to a controller. The intervals are in units of 0.625 ms. -/
structure Transmission where
  device : UInt16
  intervalMin : UInt16
  intervalMax : UInt16
deriving DecidableEq, Repr

structure EncodeRequest where
  frame : FrameRequest
  txPower : Int8
  overrides : FlagOverrides
  transmission : Option Transmission
deriving DecidableEq

def EncodeRequest.beacon (r : EncodeRequest) : Beacon :=
  let b := Beacon.ofFrame r.frame.frame r.txPower
  { b with flags := r.overrides.apply b.flags }

structure SensorTagRequest where
  sensor : SensorTag.Sensor
  -- The value, perhaps in several pieces.
  pieces : List String
  givenFirmware : Option SensorTag.Firmware
  deviceName : Option String
  calibration : Option String
  measurement : String
deriving DecidableEq, Repr

namespace SensorTagRequest

/-- The generation that is given, else the one that the device's name tells, else the older one. -/
def firmware (r : SensorTagRequest) : SensorTag.Firmware :=
  r.givenFirmware.getD ((r.deviceName.map SensorTag.Firmware.ofDeviceName).getD .cc2541)

def value (r : SensorTagRequest) : String := " ".intercalate r.pieces

end SensorTagRequest

inductive Request where
  | scan (request : ScanRequest)
  | encode (request : EncodeRequest)
  | sensorTag (request : SensorTagRequest)

end BleBeacon
