import BleBeacon.SensorTag.Reading
import BleBeacon.Line.Point
import BleBeacon.Log.Basic

/-!
Sensor readings as points in line protocol, without a time. Values that are not finite have no text
there and are left out; a reading of which nothing remains has no line.
-/

namespace BleBeacon.SensorTag

open Line

def Reading.finiteFields (r : Reading) : List (String × Float) :=
  r.fields.filter fun (_, value) => value.isFinite

def Reading.pointFields (r : Reading) : List (String × FieldValue) :=
  (match r with
    | .firmwareRevision revision => [("revision", .text revision)]
    | _ => [])
  ++ r.finiteFields.map fun (name, value) => (name, .float value)

def Reading.line? (measurement : String) (firmware : Firmware) (r : Reading) : Option String :=
  let fields := KeyMap.ofList r.pointFields
  if fields.entries.isEmpty then none
  else
    let tags := KeyMap.ofList [("firmware", firmware.name), ("sensor", r.sensor.name)]
    some (Point.mk measurement tags fields none).render

def droppedRecord (sensor : Sensor) (name : String) (value : Float) : Log.Record :=
  ⟨.debug, .line,
    "Dropping non-finite " ++ sensor.name ++ " " ++ name ++ ": " ++ Decimal.text value⟩

-- The line of a reading, with a record for each value that is left out.
def Reading.print (measurement : String) (firmware : Firmware) (r : Reading) :
    Logged (Option String) :=
  ⟨r.line? measurement firmware,
    (r.fields.filter fun (_, value) => !value.isFinite).map fun (name, value) =>
      droppedRecord r.sensor name value⟩

end BleBeacon.SensorTag
