import BleBeacon.Text.Basic

/-!
The two generations of the TI SensorTag and the values that each of them offers.
-/

namespace BleBeacon.SensorTag

-- Hardware generations, which differ in offsets, scales and signs.
inductive Firmware where
  | cc2541
  | cc2650
deriving DecidableEq, Repr

def Firmware.name : Firmware → String
  | .cc2541 => "cc2541"
  | .cc2650 => "cc2650"

/-- The generation that an advertised device name tells. Only the newer one names itself. -/
def Firmware.ofDeviceName (name : String) : Firmware :=
  if occursIn "CC2650 SensorTag".toList name.toList then .cc2650 else .cc2541

inductive Sensor where
  | temperature
  | accelerometer
  | humidity
  | magnetometer
  | barometer
  | gyroscope
  | light
  | keys
  -- The revision text of the device information.
  | firmwareRevision
deriving DecidableEq, Repr

namespace Sensor

-- All sensors, in the order in which they are offered.
def all : List Sensor :=
  [.temperature, .accelerometer, .humidity, .magnetometer, .barometer, .gyroscope, .light, .keys,
    .firmwareRevision]

def name : Sensor → String
  | temperature => "temperature"
  | accelerometer => "accelerometer"
  | humidity => "humidity"
  | magnetometer => "magnetometer"
  | barometer => "barometer"
  | gyroscope => "gyroscope"
  | light => "light"
  | keys => "keys"
  | firmwareRevision => "firmware-revision"

end Sensor

end BleBeacon.SensorTag
