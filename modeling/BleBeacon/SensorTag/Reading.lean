import BleBeacon.SensorTag.Basic

/-!
Readings of the sensors in physical units. Each reading but the revision text is a list of named
numbers; values of single precision are widened without loss.
-/

namespace BleBeacon.SensorTag

structure Axes (α : Type) where
  x : α
  y : α
  z : α

def Axes.fields {α : Type} (a : Axes α) : List (String × α) := [("x", a.x), ("y", a.y), ("z", a.z)]

/-- The pressed buttons. The side key is the reed relay on the newer generation. -/
structure Keys where
  left : Bool
  right : Bool
  side : Bool
deriving DecidableEq, Repr

inductive Reading where
  -- The temperatures of the tag and of what it looks at, in degrees Celsius.
  | temperature (ambient object : Float)
  -- Acceleration in g.
  | acceleration (axes : Axes Float)
  -- Relative humidity in percent.
  | humidity (percent : Float32)
  -- Magnetic field in microtesla.
  | magneticField (axes : Axes Float32)
  -- Pressure in hectopascal.
  | pressure (hectopascal : Float)
  -- Rotation in degrees per second.
  | rotation (axes : Axes Float32)
  -- Illuminance in lux.
  | light (lux : Float)
  | keys (keys : Keys)
  | firmwareRevision (revision : String)

namespace Reading

def sensor : Reading → Sensor
  | temperature _ _ => .temperature
  | acceleration _ => .accelerometer
  | humidity _ => .humidity
  | magneticField _ => .magnetometer
  | pressure _ => .barometer
  | rotation _ => .gyroscope
  | light _ => .light
  | keys _ => .keys
  | firmwareRevision _ => .firmwareRevision

def ofPressed (pressed : Bool) : Float := if pressed then 1 else 0

def fields : Reading → List (String × Float)
  | temperature ambient object => [("ambient", ambient), ("object", object)]
  | acceleration axes => axes.fields
  | humidity percent => [("humidity", percent.toFloat)]
  | magneticField axes => axes.fields.map fun (name, value) => (name, value.toFloat)
  | pressure hectopascal => [("pressure", hectopascal)]
  | rotation axes => axes.fields.map fun (name, value) => (name, value.toFloat)
  | light lux => [("light", lux)]
  | keys k =>
    [("left", ofPressed k.left), ("right", ofPressed k.right), ("side", ofPressed k.side)]
  | firmwareRevision _ => []

end Reading

end BleBeacon.SensorTag
