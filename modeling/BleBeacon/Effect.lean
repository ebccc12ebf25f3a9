import BleBeacon.Hci.Controller
import BleBeacon.Beacon.Encode
import BleBeacon.SensorTag.Basic

/-!
What a run of the program does, as a value: the effects in order and how the run ends. Nothing in a
run depends on whether its output can be written; a stream that stops taking lines cuts the run off.
-/

namespace BleBeacon

inductive StreamName where
  | out
  | err
deriving DecidableEq, Repr

inductive Effect where
  | write (stream : StreamName) (text : String)
  | log (record : Log.Record)
  | openSource (config : SourceConfig)
  -- Call the kernel about a controller.
  | call (record : Hci.CallRecord)
deriving DecidableEq

namespace Effect

def line (stream : StreamName) (text : String) : List Effect :=
  [.write stream text, .write stream "\n"]

def written (stream : StreamName) (effects : List Effect) : String :=
  String.join <| effects.filterMap fun
    | .write s text => if s = stream then some text else none
    | _ => none

def logged (effects : List Effect) : List Log.Record :=
  effects.filterMap fun
    | .log record => some record
    | _ => none

def calls (effects : List Effect) : List Hci.CallRecord :=
  effects.filterMap fun
    | .call record => some record
    | _ => none

def opened? (effects : List Effect) : Option SourceConfig :=
  effects.findSome? fun
    | .openSource config => some config
    | _ => none

end Effect

inductive RunError where
  | scan (error : ScanError)
  | io (reason : String)
  | decode (error : DecodeError)
  | encode (error : EncodeError)
  | emptyReading (sensor : SensorTag.Sensor)
deriving DecidableEq

def RunError.message : RunError → String
  | scan error => error.message
  | io reason => reason
  | decode error => error.message
  | encode error => error.message
  | emptyReading sensor => sensor.name ++ " reading has no finite values"

structure Run where
  effects : List Effect
  result : Except RunError Unit

namespace Run

def done : Run := ⟨[], .ok ()⟩

def fail (error : RunError) : Run := ⟨[], .error error⟩

def after (effects : List Effect) (r : Run) : Run := { r with effects := effects ++ r.effects }

end Run

/-- How many lines the streams take, if there is a limit, and what a write behind it fails with. -/
structure StreamLimits where
  out : Option Nat
  err : Option Nat
  reason : String

namespace StreamLimits

def left? (limits : StreamLimits) : StreamName → Option Nat
  | .out => limits.out
  | .err => limits.err

/-- The limits behind a piece of text on a stream. Each line feed counts. -/
def behind (limits : StreamLimits) (stream : StreamName) (text : String) : StreamLimits :=
  let feeds := text.toList.count '\n'
  match stream with
  | .out => { limits with out := limits.out.map (· - feeds) }
  | .err => { limits with err := limits.err.map (· - feeds) }

/-- The effects up to the first write that a stream does not take, and whether there is one. -/
def cut (limits : StreamLimits) : List Effect → List Effect × Bool
  | [] => ([], false)
  | .write stream text :: rest =>
    if limits.left? stream = some 0 then ([], true)
    else
      let (kept, refused) := (limits.behind stream text).cut rest
      (.write stream text :: kept, refused)
  | effect :: rest =>
    let (kept, refused) := limits.cut rest
    (effect :: kept, refused)

end StreamLimits

/-- A run whose streams are limited. It ends at the first write that is refused. -/
def Run.limited (limits : StreamLimits) (r : Run) : Run :=
  match limits.cut r.effects with
  | (kept, true) => ⟨kept, .error (.io limits.reason)⟩
  | (kept, false) => ⟨kept, r.result⟩

end BleBeacon
