import BleBeacon.Beacon.Basic
import BleBeacon.Log.Basic

/-!
Advertising data of beacons as hexadecimal text: a byte that counts the significant bytes, the
structures, and zeros up to thirty-two bytes. The digits of a UID are taken as they are given.
-/

namespace BleBeacon

inductive UidField where
  | namespaceId
  | instanceId
deriving DecidableEq, Repr

namespace UidField

def name : UidField → String
  | namespaceId => "namespace"
  | instanceId => "instance"

def width : UidField → Nat
  | namespaceId => 10
  | instanceId => 6

end UidField

inductive EncodeError where
  | urlTooLong (length : Nat)
  | unknownUrlScheme (body : String)
  | notImplemented (type : FrameType)
  | invalidField (field : UidField) (value : String)
deriving DecidableEq, Repr

def EncodeError.message : EncodeError → String
  | urlTooLong length =>
    s!"URL body is {length} bytes after compression, at most {Url.maxLength} fit in a frame"
  | unknownUrlScheme body => "URL has no encodable scheme: " ++ body
  | notImplemented type => "Encoding " ++ type.name ++ " frames is not implemented"
  | invalidField field value => "Invalid " ++ field.name ++ ": " ++ value

def powerHex (txPower : Int8) : String := Hex.byteText txPower.toUInt8

def AdFlags.hex (f : AdFlags) : String := "0201" ++ Hex.byteText f.toByte

-- The text of a UID field, if it has the right number of digits.
def UidField.check (field : UidField) (value : String) : Except EncodeError Unit :=
  if utf8Length value.toList = 2 * field.width ∧ (Hex.decode? value.toList).isSome then .ok ()
  else .error (.invalidField field value)

def eddystoneListHex : String := "0303aafe"

def EddystoneFrame.encode (frame : EddystoneFrame) (flags : AdFlags) (txPower : Int8) :
    Except EncodeError String :=
  match frame with
  | .uid namespaceId instanceId => do
    UidField.namespaceId.check namespaceId
    UidField.instanceId.check instanceId
    return "1e" ++ flags.hex ++ eddystoneListHex ++ "1716aafe" ++ Hex.byteText FrameType.uid.code
      ++ powerHex txPower ++ namespaceId ++ instanceId ++ "0000"
  | .url (.unknown _) body => .error (.unknownUrlScheme body)
  | .url scheme body =>
    let compressed := Url.encode body
    let n := compressed.length
    if Url.maxLength < n then .error (.urlTooLong n)
    else
      .ok (Hex.byteText (UInt8.ofNat (14 + n)) ++ flags.hex ++ eddystoneListHex
        ++ Hex.byteText (UInt8.ofNat (6 + n)) ++ "16aafe" ++ Hex.byteText FrameType.url.code
        ++ powerHex txPower ++ Hex.byteText scheme.code ++ Hex.encode compressed
        ++ Hex.encode (List.replicate (Url.maxLength - n) 0))
  | .tlm | .eid | .reserved => .error (.notImplemented frame.type)

def IBeacon.encode (beacon : IBeacon) (flags : AdFlags) (txPower : Int8) : String :=
  "1e" ++ flags.hex ++ "1aff4c000215" ++ beacon.uuid.simple
    ++ Hex.encode (Bytes.ofNatBE 2 beacon.major.toNat)
    ++ Hex.encode (Bytes.ofNatBE 2 beacon.minor.toNat) ++ powerHex txPower ++ "00"

namespace Beacon

-- The advertising data of a beacon, or why there is none.
def tryEncode (b : Beacon) : Except EncodeError String :=
  match b.frame with
  | .eddystone frame => frame.encode b.flags b.txPower
  | .iBeacon beacon => .ok (beacon.encode b.flags b.txPower)

-- The advertising data of a beacon, or an empty text and a warning.
def encode (b : Beacon) : Logged String :=
  match b.tryEncode with
  | .ok text => ⟨text, []⟩
  | .error e =>
    ⟨"", [⟨.warn, .beacon, "Not encoding " ++ b.kind.name ++ " beacon: " ++ e.message⟩]⟩

end Beacon

end BleBeacon
