import BleBeacon.Capture.Reader

/-!
How far the reader of a capture is ahead of the one who handles its packets. Both share one thread
of work. The reader goes on for as long as it need not wait; it waits when it wants bytes that were
not fetched yet, and when it has a packet for which there is no room. Whenever it waits, all packets
that have been read are handled first. So what the reader says at its end comes before the packets
that it has read since it waited last.
-/

namespace BleBeacon.Capture

def packetRoom : Nat := 100

def fetchSize : Nat := 8192

structure ReadAhead where
  -- Bytes that were fetched and not used.
  held : Nat
  behind : Nat
  -- Packets that were read and not handled.
  waiting : Nat
deriving DecidableEq, Repr

namespace ReadAhead

/-- Use `n` bytes. If they are not all held, what is missing is fetched, together with what follows
it unless it is a fetch of its own; meanwhile all packets are handled. -/
def use (a : ReadAhead) (n : Nat) : ReadAhead :=
  let missing := n - a.held
  if missing = 0 then { a with held := a.held - n }
  else if fetchSize ≤ missing then ⟨0, a.behind - missing, 0⟩
  else
    let fetched := min fetchSize a.behind
    ⟨fetched - missing, a.behind - fetched, 0⟩

-- A reader that has used the file header of a capture of `length` bytes.
def start (length : Nat) : ReadAhead := use ⟨0, length, 0⟩ headerLength

/-- Use the fixed part of a record, whose first byte tells whether there is one. -/
def useFixedPart (a : ReadAhead) : ReadAhead := (a.use 1).use (recordHeaderLength - 1)

/-- Put a packet to those that wait; if there is no room, they are all handled first. -/
def push (a : ReadAhead) : ReadAhead :=
  { a with waiting := if a.waiting < packetRoom then a.waiting + 1 else 1 }

def read (a : ReadAhead) (record : Record) : ReadAhead :=
  (a.useFixedPart.use record.data.length).push

/-- The packets that wait when the reader of a capture of `length` bytes ends behind some records.
The end of the stream, within a record or not, is found only by waiting for bytes; a record that
claims too many bytes is found as soon as its fixed part is there. -/
def waitingAtEnd (length : Nat) (records : List Record) (ending : Ending) : Nat :=
  match ending with
  | .failed (.fault (.recordTooLong _)) => (records.foldl read (start length)).useFixedPart.waiting
  | _ => 0

end ReadAhead

end BleBeacon.Capture
