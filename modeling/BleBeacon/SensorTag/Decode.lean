import BleBeacon.SensorTag.Value
import BleBeacon.SensorTag.Reading
import BleBeacon.Log.Basic

/-!
Decoding characteristic values. Each decoder reads its fields in a fixed order, so the first field
that does not fit is the one that is reported. Formulas stated in single precision are computed in
single precision, step by step.
-/

namespace BleBeacon.SensorTag

def double (n : Int16) : Float := Float.ofInt n.toInt

def single (n : Int16) : Float32 := Float32.ofInt n.toInt

def pow2 (n : Nat) : Float := Float.ofNat (1 <<< n)

/-- The temperature of the object that a thermopile looks at, from the temperature of the tag and
the raw voltage. -/
def thermopile (ambient : Float) (raw : Int16) : Float :=
  let voltage := double raw * 1.5625e-7
  let die := ambient + 273.15
  let above := die - 298.15
  let sensitivity := 5.593e-14 * (1.0 + 1.75e-3 * above + -1.678e-5 * (above * above))
  let offset := -2.94e-5 + -5.7e-7 * above + 4.63e-9 * (above * above)
  let net := voltage - offset
  let seebeck := voltage - offset + 13.4 * (net * net)
  let square := die * die
  Float.pow (square * square + seebeck / sensitivity) 0.25 - 273.15

/-- Temperatures. The newer generation sends steps of 1/128 degree whose two low bits are unused. -/
def temperature (firmware : Firmware) (bytes : Bytes) : Except DecodeError Reading := do
  let ambient ← Field.unsigned16 bytes 2
  match firmware with
  | .cc2650 =>
    let object ← Field.unsigned16 bytes 0
    let degrees (n : UInt16) : Float := Float.ofNat (n.toNat / 4) * 0.03125
    return .temperature (degrees ambient) (degrees object)
  | .cc2541 =>
    let object ← Field.signed16 bytes 0
    let ambient := Float.ofNat ambient.toNat / 128.0
    return .temperature ambient (thermopile ambient object)

/-- Acceleration. The newer generation sends it among other movements, 4096 to a g; the older one
sends three signed bytes, 64 to a g. -/
def acceleration (firmware : Firmware) (bytes : Bytes) : Except DecodeError Reading :=
  match firmware with
  | .cc2650 => do
    let x ← Field.signed16 bytes 6
    let y ← Field.signed16 bytes 8
    let z ← Field.signed16 bytes 10
    return .acceleration
      ⟨(-(single x / 4096)).toFloat, (single y / 4096).toFloat, (-(single z / 4096)).toFloat⟩
  | .cc2541 =>
    match bytes with
    | x :: y :: z :: _ =>
      let value (b : UInt8) : Float := Float.ofInt b.toInt8.toInt
      .ok (.acceleration ⟨value x / 64, value y / 64, -value z / 64⟩)
    | _ => .error (.tooShort 3 bytes.length)

/-- Relative humidity. The two low bits of the older generation tell a state. -/
def humidity (firmware : Firmware) (bytes : Bytes) : Except DecodeError Reading := do
  let raw ← Field.unsigned16 bytes 2
  match firmware with
  | .cc2650 => return .humidity (Float32.ofNat raw.toNat / 65536 * 100)
  | .cc2541 =>
    let raw := raw.toNat / 4 * 4
    return .humidity (-6 + 125 * (Float32.ofNat raw / 65535))

/-- Magnetic field. The newer generation's scale is the whole quotient of 32768 and 4912. -/
def magneticField (firmware : Firmware) (bytes : Bytes) : Except DecodeError Reading :=
  match firmware with
  | .cc2650 => do
    let x ← Field.signed16 bytes 12
    let y ← Field.signed16 bytes 14
    let z ← Field.signed16 bytes 16
    return .magneticField ⟨single x / 6, single y / 6, single z / 6⟩
  | .cc2541 => do
    let scale : Float32 := 2000 / 65536
    let x ← Field.signed16 bytes 0
    let y ← Field.signed16 bytes 2
    let z ← Field.signed16 bytes 4
    return .magneticField ⟨-(single x * scale), -(single y * scale), single z * scale⟩

-- A number of twelve bits of mantissa and four bits of binary exponent.
def shortFloat (raw : UInt16) (scale : Float) : Float :=
  let mantissa := Float.ofNat (raw.toNat % 4096)
  mantissa * (scale * pow2 (raw.toNat / 4096))

-- Pressure from the raw temperature and pressure of the older generation.
def calibratedPressure (c : Calibration) (temperature : Int16) (pressure : UInt16) : Float :=
  let t := double temperature
  let p := Float.ofNat pressure.toNat
  let coefficient (n : Int32) : Float := Float.ofInt n.toInt
  let sensitivity := coefficient c.c2 + coefficient c.c3 * t / pow2 17
    + coefficient c.c4 * t / pow2 15 * t / pow2 19
  let offset := coefficient c.c5 * pow2 14 + coefficient c.c6 * t / pow2 3
    + coefficient c.c7 * t / pow2 15 * t / pow2 4
  (sensitivity * p + offset) / pow2 14 / 100

/-- Pressure. Values of the newer generation that are longer than four bytes hold 24 bits, others a
short float; the older generation needs its calibration. -/
def pressure (firmware : Firmware) (calibration : Option Calibration) (bytes : Bytes) :
    Except DecodeError Reading :=
  match firmware with
  | .cc2650 =>
    if 4 < bytes.length then do
      let raw ← Field.unsigned24 bytes 3
      return .pressure (Float.ofNat raw.toNat / 100)
    else do
      let raw ← Field.unsigned16 bytes 2
      return .pressure (shortFloat raw 1 / 100)
  | .cc2541 =>
    match calibration with
    | none => .error (.missingCalibration firmware)
    | some c => do
      let temperature ← Field.signed16 bytes 0
      let raw ← Field.unsigned16 bytes 2
      return .pressure (calibratedPressure c temperature raw)

/-- Rotation. Both generations send y before x. -/
def rotation (firmware : Firmware) (bytes : Bytes) : Except DecodeError Reading := do
  let y := single (← Field.signed16 bytes 0)
  let x := single (← Field.signed16 bytes 2)
  let z := single (← Field.signed16 bytes 4)
  match firmware with
  | .cc2650 => return .rotation ⟨x / 131, y / 131, z / 131⟩
  | .cc2541 =>
    let scale : Float32 := 500 / 65536
    return .rotation ⟨x * scale, -(y * scale), z * scale⟩

def light (bytes : Bytes) : Except DecodeError Reading := do
  return .light (shortFloat (← Field.unsigned16 bytes 0) 0.01)

/-- The buttons. The two generations number left and right differently. -/
def keys (firmware : Firmware) (bytes : Bytes) : Except DecodeError Reading :=
  match bytes with
  | [] => .error (.tooShort 1 0)
  | status :: _ =>
    let bit (n : Nat) : Bool := status.toNat.testBit n
    match firmware with
    | .cc2541 => .ok (.keys ⟨bit 1, bit 0, bit 2⟩)
    | .cc2650 => .ok (.keys ⟨bit 0, bit 1, bit 2⟩)

/-- The text without its last `n` characters; nothing of a shorter text. -/
def dropLast (n : Nat) (text : String) : String :=
  String.ofList (text.toList.take (text.toList.length - n))

def byteText (bytes : Bytes) : String := String.ofList (bytes.map fun b => Char.ofNat b.toNat)

/-- The part of a value that is decoded. The older generation's revision ends with a zero byte,
written behind a blank: its last three characters are not looked at. -/
def relevantText (sensor : Sensor) (firmware : Firmware) (value : String) : String :=
  match sensor, firmware with
  | .firmwareRevision, .cc2541 => dropLast 3 value
  | _, _ => value

def decodeBytes (sensor : Sensor) (firmware : Firmware) (calibration : Option Calibration)
    (bytes : Bytes) : Except DecodeError Reading :=
  match sensor with
  | .temperature => temperature firmware bytes
  | .accelerometer => acceleration firmware bytes
  | .humidity => humidity firmware bytes
  | .magnetometer => magneticField firmware bytes
  | .barometer => pressure firmware calibration bytes
  | .gyroscope => rotation firmware bytes
  | .light => light bytes
  | .keys => keys firmware bytes
  | .firmwareRevision => .ok (.firmwareRevision (byteText bytes))

def decode (sensor : Sensor) (value : String) (firmware : Firmware)
    (calibration : Option Calibration) : Except DecodeError Reading := do
  decodeBytes sensor firmware calibration (← Hex.decodeValue (relevantText sensor firmware value))

def receive (sensor : Sensor) (value : String) (firmware : Firmware)
    (calibration : Option Calibration) : Logged (Except DecodeError Reading) := do
  Logged.record .debug .sensorTag ("Received " ++ sensor.name ++ " value: " ++ value)
  return decode sensor value firmware calibration

end BleBeacon.SensorTag
