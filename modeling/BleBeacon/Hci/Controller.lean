import BleBeacon.Hci.Command
import BleBeacon.Report
import BleBeacon.Source
import BleBeacon.Log.Basic

/-!
Talking to a controller through raw sockets of the kernel. What is asked of the kernel is a plan: a
list of calls, made in order up to the first that fails. The kernel's answers are an input, its
texts for errors among them, so a run is a value: the calls that were made, with the error number of
the one that failed.
-/

namespace BleBeacon.Hci

/-- Which events a socket lets through: one bit for each packet type and for each event. -/
structure EventFilter where
  typeMask : UInt32
  eventMaskLow : UInt32
  eventMaskHigh : UInt32
deriving DecidableEq, Repr

def EventFilter.leMeta : EventFilter where
  typeMask := 1 <<< eventPacket.toUInt32
  eventMaskLow := 0
  eventMaskHigh := 1 <<< (leMetaEvent.toUInt32 - 32)

/-- What is asked of the kernel. Sockets are numbered in the order in which they are made. -/
inductive Call where
  | socket
  | bind (socket : Nat) (device : UInt16)
  | setFilter (socket : Nat) (filter : EventFilter)
  | write (socket : Nat) (packet : Bytes)
deriving DecidableEq, Repr

inductive CallName where
  | socket
  | bind
  | setFilter
  | write
deriving DecidableEq, Repr

def Call.name : Call → CallName
  | socket => .socket
  | bind _ _ => .bind
  | setFilter _ _ => .setFilter
  | write _ _ => .write

-- A call that was made, and its error number if it failed.
structure CallRecord where
  call : Call
  errno : Option Nat
deriving DecidableEq, Repr

/-- The kernel's answers. -/
structure Kernel where
  -- The error number, if any, of the `n`-th call of a name.
  errno? : CallName → Nat → Option Nat
  -- What an error number means.
  errorText : Nat → String

def Kernel.failingAt (errorText : Nat → String) (failure : Option (CallName × Nat × Nat)) :
    Kernel where
  errno? := fun name n =>
    match failure with
    | some (failName, failIndex, errno) =>
      if name = failName ∧ n = failIndex then some errno else none
    | none => none
  errorText := errorText

def Call.failure (errorText : Nat → String) (call : Call) (errno : Nat) : ScanError :=
  .bluetooth <|
    (match call with
      | socket => "Failed to create HCI socket: "
      | bind _ device => s!"Failed to bind HCI socket to hci{device.toNat}: "
      | setFilter _ _ => "Failed to set HCI filter: "
      | write _ _ => "Failed to send HCI command: ")
    ++ osError errorText errno

def Call.announcement : Call → List Log.Record
  | write _ packet => [⟨.debug, .controller, "HCI command: " ++ Hex.encode packet⟩]
  | _ => []

/-- A run of a plan: the calls that were made, what was logged, and how it ended. -/
structure PlanRun where
  calls : List CallRecord
  log : List Log.Record
  result : Except ScanError Unit

/-- Make the calls of a plan in order, up to the first that fails. `made` counts the earlier calls
of each name. -/
def runFrom (kernel : Kernel) (made : CallName → Nat) : List Call → PlanRun
  | [] => ⟨[], [], .ok ()⟩
  | call :: rest =>
    match kernel.errno? call.name (made call.name) with
    | some errno =>
      ⟨[⟨call, some errno⟩], call.announcement, .error (call.failure kernel.errorText errno)⟩
    | none =>
      let made' := fun name => if name = call.name then made name + 1 else made name
      let later := runFrom kernel made' rest
      ⟨⟨call, none⟩ :: later.calls, call.announcement ++ later.log, later.result⟩

-- Make the calls of a plan in order, up to the first that fails.
def run (kernel : Kernel) (plan : List Call) : PlanRun := runFrom kernel (fun _ => 0) plan

/-- How scanning is set up: one socket takes the events, another sends the commands. Both times of
the scan are 10 ms, and repeated reports are wanted, because beacons repeat themselves. -/
def scanPlan (device : UInt16) : List Call :=
  [.socket, .bind 0 device, .setFilter 0 .leMeta, .socket, .bind 1 device,
    .write 1 (setScanParameters 0x0010 0x0010), .write 1 (setScanEnable true false)]

def sendPlan (device : UInt16) (packets : List Bytes) : List Call :=
  [.socket, .bind 0 device] ++ packets.map (.write 0)

inductive Read where
  | packet (bytes : Bytes)
  | failed (errno : Nat)
deriving DecidableEq, Repr

/-- The longest event: its header and 255 bytes. The rest of a longer packet is lost. -/
def maxEventLength : Nat := 258

def isMetaEvent (packet : Bytes) : Bool :=
  match packet with
  | type :: code :: _ :: _ :: _ => type == eventPacket && code == leMetaEvent
  | _ => false

-- The error number of a read that would have to wait.
def wouldBlock : Nat := 11

/-- What is logged about a failed read. Having to wait is no failure. -/
def failureLog (errorText : Nat → String) (errno : Nat) : List Log.Record :=
  if errno = wouldBlock then []
  else [⟨.debug, .controller, "HCI read failed: " ++ osError errorText errno⟩]

/-- What reading from a socket gives: the packets that are passed on, and what is logged. -/
structure Received where
  packets : List Bytes
  log : List Log.Record
deriving DecidableEq

namespace Received

def none : Received := ⟨[], []⟩

def append (a b : Received) : Received := ⟨a.packets ++ b.packets, a.log ++ b.log⟩

end Received

/-- Read until a read gives nothing. What was received, and the reads that are still to come. -/
def drain (errorText : Nat → String) : List Read → Received × List Read
  | [] => (.none, [])
  | .failed errno :: rest => (⟨[], failureLog errorText errno⟩, rest)
  | .packet bytes :: rest =>
    let packet := bytes.take maxEventLength
    if packet = [] then (.none, rest)
    else
      let (later, behind) := drain errorText rest
      (.append ⟨if isMetaEvent packet then [packet] else [], []⟩ later, behind)

theorem length_drain_le (errorText : Nat → String) (reads : List Read) :
    (drain errorText reads).2.length ≤ reads.length - 1 := by
  induction reads with
  | nil => exact Nat.le_refl 0
  | cons read rest ih =>
    cases read with
    | failed errno => exact Nat.le_refl _
    | packet bytes =>
      simp only [drain]
      split
      · exact Nat.le_refl _
      · simp only [List.length_cons]
        omega

/-- Whenever there is something to read, read until a read gives nothing. No read ends this. -/
def receive (errorText : Nat → String) (reads : List Read) : Received :=
  match reads with
  | [] => .none
  | read :: rest =>
    let drained := drain errorText (read :: rest)
    drained.1.append (receive errorText drained.2)
termination_by reads.length
decreasing_by
  have shorter := length_drain_le errorText (read :: rest)
  simp only [List.length_cons] at shorter ⊢
  omega

/-- A scan: the calls that set it up, what is logged, and the packets that are passed on. Neither an
empty read nor a failed one ends it. -/
structure ScanRun where
  calls : List CallRecord
  log : List Log.Record
  result : Except ScanError (List Bytes)

def scan (kernel : Kernel) (device : UInt16) (reads : List Read) : ScanRun :=
  let setup := run kernel (scanPlan device)
  match setup.result with
  | .error e => ⟨setup.calls, setup.log, .error e⟩
  | .ok () =>
    let received := receive kernel.errorText reads
    ⟨setup.calls,
      setup.log ++ [⟨.info, .controller, s!"Scanning on hci{device.toNat}"⟩] ++ received.log,
      .ok received.packets⟩

def advertise (kernel : Kernel) (device : UInt16) (packets : List Bytes) : PlanRun :=
  let sent := run kernel (sendPlan device packets)
  match sent.result with
  | .error _ => sent
  | .ok () =>
    let done : Log.Record := ⟨.info, .controller,
      s!"Sent {packets.length} advertising commands to hci{device.toNat}"⟩
    { sent with log := sent.log ++ [done] }

end BleBeacon.Hci
