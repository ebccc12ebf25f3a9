import BleBeacon.Address
import BleBeacon.DecodeError

/-!
LE Advertising Report events, as one H4 packet each: a five byte header that announces a number of
reports, then the reports back to back. Another packet or event is not an error.
-/

namespace BleBeacon

def eventPacket : UInt8 := 0x04

def leMetaEvent : UInt8 := 0x3E

def advertisingReport : UInt8 := 0x02

inductive AdvertisingType where
  | connectableUndirected
  | connectableDirected
  | scannableUndirected
  | nonConnectableUndirected
  | scanResponse
  | other (code : UInt8)
deriving DecidableEq, Repr

namespace AdvertisingType

def ofCode (code : UInt8) : AdvertisingType :=
  match code.toNat with
  | 0 => .connectableUndirected
  | 1 => .connectableDirected
  | 2 => .scannableUndirected
  | 3 => .nonConnectableUndirected
  | 4 => .scanResponse
  | _ => .other code

def code : AdvertisingType → UInt8
  | connectableUndirected => 0
  | connectableDirected => 1
  | scannableUndirected => 2
  | nonConnectableUndirected => 3
  | scanResponse => 4
  | other code => code

end AdvertisingType

structure Report where
  eventType : AdvertisingType
  addressType : AddressType
  address : DeviceAddress
  payload : Bytes
  -- The strength of the received signal in dBm.
  rssi : Int8
deriving DecidableEq

structure ReportSet where
  packetType : UInt8
  eventCode : UInt8
  parameterLength : UInt8
  subeventCode : UInt8
  -- The number of reports that the header announces.
  reportCount : UInt8
  reports : List Report
deriving DecidableEq

/-- A place in an event: the number of bytes before it and the bytes from it on. -/
structure EventCursor where
  position : Nat
  rest : Bytes

namespace EventCursor

-- The next `n` bytes, which belong to `field`, and the place behind them.
def take (c : EventCursor) (field : ReportField) (n : Nat) :
    Except DecodeError (Octets n × EventCursor) :=
  if h : n ≤ c.rest.length then
    .ok (Octets.ofTake c.rest n h, ⟨c.position + n, c.rest.drop n⟩)
  else .error (.malformedReport field (c.position + n) (c.position + c.rest.length))

def byte (c : EventCursor) (field : ReportField) : Except DecodeError (UInt8 × EventCursor) := do
  let (octets, c) ← c.take field 1
  return (octets.byte, c)

def report (c : EventCursor) : Except DecodeError (Report × EventCursor) := do
  let (eventType, c) ← c.byte .eventType
  let (addressType, c) ← c.byte .addressType
  let (address, c) ← c.take .address 6
  let (length, c) ← c.byte .dataLength
  let (payload, c) ← c.take .payload length.toNat
  let (rssi, c) ← c.byte .rssi
  return (⟨.ofCode eventType, .ofCode addressType, .ofWire address, payload.1, rssi.toInt8⟩, c)

def reports (c : EventCursor) : Nat → Except DecodeError (List Report)
  | 0 => .ok []
  | count + 1 => do
    let (r, c) ← c.report
    return r :: (← c.reports count)

end EventCursor

/-- The subevent of a packet that is an LE meta event, as far as the packet goes. Nothing for other
packets. -/
def metaSubevent? : Bytes → Option (Option UInt8)
  | type :: code :: rest =>
    if type = eventPacket ∧ code = leMetaEvent then some rest[1]? else none
  | _ => none

/-- The reports of a packet, or nothing if it is no advertising report event. A packet that ends
before its subevent is taken for one, and is too short. -/
def parseReports (packet : Bytes) : Except DecodeError (Option ReportSet) :=
  match metaSubevent? packet with
  | none => .ok none
  | some subevent =>
    if subevent.any (· ≠ advertisingReport) then .ok none
    else do
      let (header, c) ← (EventCursor.mk 0 packet).take .header 5
      match header with
      | ⟨[type, code, length, sub, count], _⟩ =>
        let reports ← c.reports count.toNat
        return some ⟨type, code, length, sub, count, reports⟩

end BleBeacon
