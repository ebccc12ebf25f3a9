import BleBeacon.Beacon.Batch
import BleBeacon.Observation
import BleBeacon.Throttle
import BleBeacon.Effect

/-!
The scan loop. Each packet is parsed once and handed to the selected formats in turn; the beacons
that pass the address filter and the throttle become lines. Packets that are no advertising reports
are passed over, malformed ones are told only when that is wanted. The times at which packets are
handled are inputs, so a scan is a function of its events.
-/

namespace BleBeacon

-- A packet, and the times at which it is handled.
structure ScanEvent where
  packet : Bytes
  -- Nanoseconds since the start of 1970.
  time : Int
  -- The reading of a clock that never goes back, in nanoseconds.
  clock : Nat

inductive Selection where
  | eddystone
  | iBeacon
  | all
deriving DecidableEq, Repr

-- The selected formats in the order in which they are looked for.
def Selection.kinds : Selection → List BeaconKind
  | eddystone => [.eddystone]
  | iBeacon => [.iBeacon]
  | all => [.eddystone, .iBeacon]

structure ScanSettings where
  selection : Selection
  measurement : String
  -- The least time between two lines of a beacon, in nanoseconds.
  interval : Option Nat
  -- The devices to report; all if there is none.
  addresses : List DeviceAddress
  -- Whether malformed packets and reports are told.
  verbose : Bool

abbrev BeaconKey := Option DeviceAddress × BeaconKind

namespace ScanSettings

def accepts (s : ScanSettings) (a : DeviceAddress) : Bool :=
  s.addresses.isEmpty || s.addresses.contains a

-- The throttle at the start, if there is an interval.
def throttle (s : ScanSettings) : Option (Throttle BeaconKey) :=
  s.interval.map .new

end ScanSettings

namespace Scan

def report (s : ScanSettings) (text : String) : List Effect :=
  if s.verbose then Effect.line .err text else []

-- Whether a beacon passes the throttle, and the throttle behind it.
def admits (throttle : Option (Throttle BeaconKey)) (clock : Nat) (b : Beacon) :
    Bool × Option (Throttle BeaconKey) :=
  match throttle with
  | none => (true, none)
  | some t =>
    let (passes, t) := t.admits (b.address, b.kind) clock
    (passes, some t)

def emit (s : ScanSettings) (event : ScanEvent) (throttle : Option (Throttle BeaconKey)) :
    List Beacon → List Effect × Option (Throttle BeaconKey)
  | [] => ([], throttle)
  | b :: rest =>
    if b.address.any (!s.accepts ·) then emit s event throttle rest
    else
      let (passes, throttle) := admits throttle event.clock b
      let (effects, throttle) := emit s event throttle rest
      let line := if passes then
        Effect.line .out (Observation.line s.measurement ⟨b, event.time⟩) else []
      (line ++ effects, throttle)

def handleKind (s : ScanSettings) (event : ScanEvent) (set : ReportSet)
    (throttle : Option (Throttle BeaconKey)) (kind : BeaconKind) :
    List Effect × Option (Throttle BeaconKey) :=
  let batch := Batch.ofSet kind set
  let told := (batch.value.skipped.filter fun r => s.accepts r.address).flatMap fun r =>
    report s r.text
  let (lines, throttle) := emit s event throttle batch.value.beacons
  (batch.log.map Effect.log ++ told ++ lines, throttle)

def handleKinds (s : ScanSettings) (event : ScanEvent) (set : ReportSet)
    (throttle : Option (Throttle BeaconKey)) :
    List BeaconKind → List Effect × Option (Throttle BeaconKey)
  | [] => ([], throttle)
  | kind :: rest =>
    let (first, throttle) := handleKind s event set throttle kind
    let (more, throttle) := handleKinds s event set throttle rest
    (first ++ more, throttle)

def malformedRecord (e : DecodeError) : Log.Record :=
  ⟨.debug, .app, "Skipping malformed packet: " ++ e.message⟩

def handle (s : ScanSettings) (throttle : Option (Throttle BeaconKey)) (event : ScanEvent) :
    List Effect × Option (Throttle BeaconKey) :=
  match parseReports event.packet with
  | .error e => (.log (malformedRecord e) :: report s e.message, throttle)
  | .ok none => ([], throttle)
  | .ok (some set) => handleKinds s event set throttle s.selection.kinds

def loop (s : ScanSettings) (throttle : Option (Throttle BeaconKey)) :
    List ScanEvent → List (List Effect)
  | [] => []
  | event :: rest =>
    let (effects, throttle) := handle s throttle event
    effects :: loop s throttle rest

def steps (s : ScanSettings) (events : List ScanEvent) : List (List Effect) :=
  loop s s.throttle events

def run (s : ScanSettings) (events : List ScanEvent) : List Effect := (steps s events).flatten

theorem length_loop (s : ScanSettings) (throttle : Option (Throttle BeaconKey))
    (events : List ScanEvent) : (loop s throttle events).length = events.length := by
  induction events generalizing throttle with
  | nil => rfl
  | cons event rest ih => simp [loop, ih]

theorem length_steps (s : ScanSettings) (events : List ScanEvent) :
    (steps s events).length = events.length := length_loop s s.throttle events

end Scan

end BleBeacon
