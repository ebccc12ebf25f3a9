import BleBeacon.Bytes
import BleBeacon.Source

/-!
The btsnoop capture format: a header of magic, version and datalink, then records of a fixed part
and the captured bytes. All numbers have their most significant byte first.
-/

namespace BleBeacon.Capture

def magic : Bytes := [0x62, 0x74, 0x73, 0x6E, 0x6F, 0x6F, 0x70, 0x00]

def version : Nat := 1

-- Whether the type of each packet is part of its bytes.
inductive Datalink where
  | h1
  -- Packets with their type in front.
  | h4
deriving DecidableEq, Repr

namespace Datalink

def code : Datalink → Nat
  | h1 => 1001
  | h4 => 1002

def ofCode? (code : Nat) : Option Datalink := [h1, h4].find? (·.code == code)

-- How packets are framed under any code: all but one leave out the type.
def framing (code : Nat) : Datalink := (ofCode? code).getD h1

end Datalink

def headerLength : Nat := 16

def recordHeaderLength : Nat := 24

-- The most bytes that a record may hold, which is far above any packet.
def maxRecordLength : Nat := 0x10000

structure Record where
  -- The length of the packet before the capture cut it.
  wireLength : UInt32
  flags : UInt32
  drops : UInt32
  -- Microseconds since the start of the year 0.
  timestamp : Int64
  data : Bytes
deriving DecidableEq

def header (datalink : Datalink) : Bytes :=
  magic ++ Bytes.ofNatBE 4 version ++ Bytes.ofNatBE 4 datalink.code

def Record.serialize (r : Record) : Bytes :=
  Bytes.ofNatBE 4 r.wireLength.toNat ++ Bytes.ofNatBE 4 r.data.length
    ++ Bytes.ofNatBE 4 r.flags.toNat ++ Bytes.ofNatBE 4 r.drops.toNat
    ++ Bytes.ofNatBE 8 r.timestamp.toUInt64.toNat ++ r.data

def receivedFlag : Nat := 0

def controlFlag : Nat := 1

/-- The H4 type of a packet, by the direction and class in the flags of its record: received control
packets are events, sent ones commands, and all others ACL data. -/
def packetType (flags : UInt32) : UInt8 :=
  if !flags.toNat.testBit controlFlag then 0x02
  else if flags.toNat.testBit receivedFlag then 0x04
  else 0x01

def Datalink.packet (datalink : Datalink) (flags : UInt32) (data : Bytes) : Bytes :=
  match datalink with
  | .h4 => data
  | .h1 => packetType flags :: data

inductive Fault where
  | headerTruncated
  | missingMagic
  | unsupportedVersion (version : Nat)
  | unsupportedDatalink (code : Nat)
  | recordHeaderTruncated
  | recordTooLong (length : Nat)
  | recordDataTruncated
deriving DecidableEq, Repr

def Fault.message : Fault → String
  | headerTruncated => "file header is truncated"
  | missingMagic => "missing btsnoop magic"
  | unsupportedVersion version => s!"unsupported version {version}"
  | unsupportedDatalink code => s!"unsupported datalink {code}"
  | recordHeaderTruncated => "record header is truncated"
  | recordTooLong length => s!"record claims {length} bytes"
  | recordDataTruncated => "record data is truncated"

def Fault.toScanError (f : Fault) : ScanError := .invalidCapture f.message

end BleBeacon.Capture
