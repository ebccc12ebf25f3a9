import BleBeacon.Request
import BleBeacon.Beacon.Encode
import BleBeacon.Capture.Replay
import BleBeacon.FileTree
import BleBeacon.SensorTag.Decode
import BleBeacon.SensorTag.Line

/-!
Carrying out requests. What surrounds the program is an input: what its sources give, what the kernel
answers, and when packets are handled. A run is then a value.
-/

namespace BleBeacon

structure Opening where
  effects : List Effect
  result : Except ScanError (List Bytes)
  -- What is logged when the last packet has been read.
  closing : List Log.Record
  -- The packets at the end that are handled only then.
  waiting : Nat

namespace Opening

-- A source that gives some packets and says nothing.
def ofPackets (packets : List Bytes) : Opening := ⟨[], .ok packets, [], 0⟩

def failed (error : ScanError) : Opening := ⟨[], .error error, [], 0⟩

def ofCapture (path : String) (stream : Capture.Stream) : Opening :=
  match Capture.replay path stream with
  | .error e => failed e
  | .ok replay =>
    ⟨replay.opening.map .log, .ok replay.packets, replay.closing, replay.waiting⟩

/-- What a path leads to, if it is a capture. A directory opens, but cannot be read. -/
def ofFile (errorText : Nat → String) (path : String) : Except Nat FileTree → Opening
  | .ok (.file content) => ofCapture path (.ofBytes content)
  | .ok (.directory _) => ofCapture path ⟨[], some (osError errorText FileTree.isDirectory)⟩
  | .ok (.closed errno) | .error errno => failed (.io (osError errorText errno))

def ofController (run : Hci.ScanRun) : Opening :=
  ⟨run.calls.map .call ++ run.log.map .log, run.result, [], 0⟩

end Opening

structure Surroundings where
  source : SourceConfig → Opening
  kernel : Hci.Kernel
  -- The time and the clock reading at which the packet of a number is handled.
  times : Nat → Int × Nat

namespace Surroundings

-- The packets of a source as they are handled, counted from `n`.
def events (s : Surroundings) (n : Nat) : List Bytes → List ScanEvent
  | [] => []
  | packet :: rest => ⟨packet, (s.times n).1, (s.times n).2⟩ :: s.events (n + 1) rest

end Surroundings

namespace ScanRequest

/-- Open the source and scan its packets. What the source says at its end comes before the packets
that still wait then. -/
def run (r : ScanRequest) (s : Surroundings) : Run :=
  let opening := s.source r.source
  .after (.openSource r.source :: opening.effects) <|
    match opening.result with
    | .error e => .fail (.scan e)
    | .ok packets =>
      let steps := Scan.steps r.settings (s.events 0 packets)
      let handled := steps.length - opening.waiting
      ⟨(steps.take handled).flatten ++ opening.closing.map .log ++ (steps.drop handled).flatten,
        .ok ()⟩

end ScanRequest

namespace Transmission

def packets (t : Transmission) (encoded : String) : Except DecodeError (List Bytes) := do
  let data ← Hci.setAdvertisingData encoded
  return [Hci.setAdvertisingParameters t.intervalMin t.intervalMax, data,
    Hci.setAdvertisingEnable true]

def run (t : Transmission) (encoded : String) (kernel : Hci.Kernel) : Run :=
  match t.packets encoded with
  | .error e => .fail (.decode e)
  | .ok packets =>
    let sent := Hci.advertise kernel t.device packets
    ⟨sent.calls.map .call ++ sent.log.map .log, sent.result.mapError .scan⟩

end Transmission

namespace EncodeRequest

/-- Write the advertising data of a beacon, and hand it to a controller if that is wanted. -/
def run (r : EncodeRequest) (kernel : Hci.Kernel) : Run :=
  match r.beacon.tryEncode with
  | .error e => .fail (.encode e)
  | .ok encoded =>
    .after (Effect.line .out encoded) <|
      match r.transmission with
      | none => .done
      | some t => t.run encoded kernel

end EncodeRequest

namespace SensorTagRequest

def readCalibration (r : SensorTagRequest) :
    Except DecodeError (Option SensorTag.Calibration) :=
  match r.calibration with
  | none => .ok none
  | some text => (SensorTag.Calibration.parse text).map some

def run (r : SensorTagRequest) : Run :=
  match r.readCalibration with
  | .error e => .fail (.decode e)
  | .ok calibration =>
    let received := SensorTag.receive r.sensor r.value r.firmware calibration
    .after (received.log.map .log) <|
      match received.value with
      | .error e => .fail (.decode e)
      | .ok reading =>
        let printed := reading.print r.measurement r.firmware
        .after (printed.log.map .log) <|
          match printed.value with
          | none => .fail (.emptyReading r.sensor)
          | some line => ⟨Effect.line .out line, .ok ()⟩

end SensorTagRequest

def Request.run (s : Surroundings) : Request → Run
  | .scan request => request.run s
  | .encode request => request.run s.kernel
  | .sensorTag request => request.run

end BleBeacon
