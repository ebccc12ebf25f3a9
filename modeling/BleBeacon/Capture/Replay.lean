import BleBeacon.Capture.ReadAhead
import BleBeacon.Log.Basic

/-!
Replaying a capture: all packets of its complete leading records in order, and what is logged at the
start and at the end. A malformed file header fails the replay before it starts; a malformed record
ends it.
-/

namespace BleBeacon.Capture

structure Replay where
  packets : List Bytes
  -- What is logged before the first packet.
  opening : List Log.Record
  -- What is logged when the last packet has been read.
  closing : List Log.Record
  -- The packets at the end that are handled only then.
  waiting : Nat

def openingRecord (path : String) (datalink : Datalink) : Log.Record :=
  ⟨.info, .capture, "Reading btsnoop capture from " ++ path ++ s!" (datalink {datalink.code})"⟩

-- The record of the end of a replay behind `count` packets.
def endingRecord (count : Nat) : Ending → Log.Record
  | .clean => ⟨.info, .capture, s!"End of btsnoop capture after {count} records"⟩
  | .failed e => ⟨.warn, .capture, "Stopping btsnoop replay: " ++ e.toScanError.message⟩

def abandonedRecord : Log.Record :=
  ⟨.debug, .capture, "Receiver dropped, stopping btsnoop replay"⟩

-- The replay of a capture that is known as `path`.
def replay (path : String) (stream : Stream) : Except ScanError Replay := do
  let reader ← (Reader.start stream).mapError (·.toScanError)
  let (records, ending) := reader.records
  return {
    packets := records.map reader.packet
    opening := [openingRecord path reader.datalink]
    closing := [endingRecord records.length ending]
    waiting := ReadAhead.waitingAtEnd stream.rest.length records ending }

/-- The replay as seen by someone who takes `count` packets and goes away. The packets behind those
are read as far as there is room; the reader notices when there is none left. -/
def Replay.taking (r : Replay) (count : Nat) : Replay :=
  { r with
    packets := r.packets.take count
    closing := if count + packetRoom < r.packets.length then [abandonedRecord] else r.closing }

end BleBeacon.Capture
