import BleBeacon.Text.Basic

/-!
Log records: a level, the part of the program that speaks, and a message. What a computation logs is
part of its result.
-/

namespace BleBeacon

namespace Log

-- How important a record is, most important first.
inductive Level where
  | error
  | warn
  | info
  | debug
  | trace
deriving DecidableEq, Repr

def Level.name : Level → String
  | error => "ERROR"
  | warn => "WARN"
  | info => "INFO"
  | debug => "DEBUG"
  | trace => "TRACE"

def Level.rank : Level → Nat
  | error => 1
  | warn => 2
  | info => 3
  | debug => 4
  | trace => 5

inductive Component where
  | app
  | beacon
  | sensorTag
  | line
  | capture
  | controller
deriving DecidableEq, Repr

/-- The name under which a part is listed in the log and addressed by a filter. -/
def Component.target : Component → String
  | app => "beacon_listener::app"
  | beacon => "beacon_listener::beacon"
  | sensorTag => "beacon_listener::sensortag"
  | line => "beacon_listener::output::influxdb"
  | capture => "beacon_listener::scanner::btsnoop"
  | controller => "beacon_listener::scanner::hci"

structure Record where
  level : Level
  component : Component
  message : String
deriving DecidableEq, Repr

end Log

structure Logged (α : Type) where
  value : α
  log : List Log.Record

namespace Logged

def pure {α : Type} (a : α) : Logged α := ⟨a, []⟩

def bind {α β : Type} (x : Logged α) (f : α → Logged β) : Logged β :=
  ⟨(f x.value).value, x.log ++ (f x.value).log⟩

instance : Monad Logged where
  pure := Logged.pure
  bind := Logged.bind

def record (level : Log.Level) (component : Log.Component) (message : String) : Logged Unit :=
  ⟨(), [⟨level, component, message⟩]⟩

end Logged

end BleBeacon
