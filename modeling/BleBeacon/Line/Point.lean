import BleBeacon.Line.KeyMap
import BleBeacon.Decimal

/-!
Points in line protocol: a measurement, tags, fields and perhaps a time on one line. Names and tag
values are written as they are; texts in fields are quoted.
-/

namespace BleBeacon.Line

inductive FieldValue where
  | float (value : Float)
  | integer (value : Int)
  | text (value : String)

-- A backslash in front of each backslash and each quote.
def escapeChar : Char → List Char
  | '\\' => ['\\', '\\']
  | '"' => ['\\', '"']
  | c => [c]

def quote (s : String) : String :=
  "\"" ++ String.ofList (s.toList.flatMap escapeChar) ++ "\""

/-- The text of a value. Integers are marked by an `i`. -/
def FieldValue.render : FieldValue → String
  | float value => Decimal.text value
  | integer value => toString value ++ "i"
  | text value => quote value

structure Point where
  measurement : String
  tags : KeyMap String
  fields : KeyMap FieldValue
  -- Nanoseconds since the start of 1970.
  time : Option Int

namespace Point

/-- The text of a point. A time before 1970 is left out, and the reader of the line takes its own
clock instead. -/
def render (p : Point) : String :=
  p.measurement
    ++ String.join (p.tags.entries.map fun (key, value) => "," ++ key ++ "=" ++ value)
    ++ " "
    ++ ",".intercalate (p.fields.entries.map fun (key, value) => key ++ "=" ++ value.render)
    ++ match p.time with
      | some time => if 0 ≤ time then " " ++ toString time else ""
      | none => ""

end Point

end BleBeacon.Line
