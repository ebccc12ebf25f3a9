import BleBeacon.Text.Hex

/-!
What stands in the values of sensors: numbers at fixed offsets, least significant byte first, and
the calibration of the older generation's barometer, which is made of eight of them. A read succeeds
exactly when the whole field lies inside the value.
-/

namespace BleBeacon

namespace Field

def bytesAt (bytes : Bytes) (offset width : Nat) : Except DecodeError Bytes :=
  match bytes.slice? offset width with
  | some part => .ok part
  | none => .error (.fieldOutOfRange offset width bytes.length)

def unsigned16 (bytes : Bytes) (offset : Nat) : Except DecodeError UInt16 := do
  return UInt16.ofNat (← bytesAt bytes offset 2).leNat

-- The value of a signed high byte followed downwards by a low byte.
def signedPair : Bytes → Int
  | [low, high] => 256 * high.toInt8.toInt + low.toNat
  | _ => 0

/-- The signed 16 bit number at `offset`: its high byte is signed, its low byte is not. -/
def signed16 (bytes : Bytes) (offset : Nat) : Except DecodeError Int16 := do
  return Int16.ofInt (signedPair (← bytesAt bytes offset 2))

def unsigned24 (bytes : Bytes) (offset : Nat) : Except DecodeError UInt32 := do
  return UInt32.ofNat (← bytesAt bytes offset 3).leNat

end Field

namespace SensorTag

-- Eight coefficients, which are sent in 16 bits each: the first four without a sign, the last four
-- with one.
structure Calibration where
  c0 : Int32
  c1 : Int32
  c2 : Int32
  c3 : Int32
  c4 : Int32
  c5 : Int32
  c6 : Int32
  c7 : Int32
deriving DecidableEq, Repr

namespace Calibration

-- The number of bytes that eight coefficients take.
def length : Nat := 16

def ofBytes (bytes : Bytes) : Except DecodeError Calibration :=
  if bytes.length < length then .error (.tooShort length bytes.length)
  else do
    return {
      c0 := (← Field.unsigned16 bytes 0).toUInt32.toInt32
      c1 := (← Field.unsigned16 bytes 2).toUInt32.toInt32
      c2 := (← Field.unsigned16 bytes 4).toUInt32.toInt32
      c3 := (← Field.unsigned16 bytes 6).toUInt32.toInt32
      c4 := (← Field.signed16 bytes 8).toInt32
      c5 := (← Field.signed16 bytes 10).toInt32
      c6 := (← Field.signed16 bytes 12).toInt32
      c7 := (← Field.signed16 bytes 14).toInt32 }

def parse (value : String) : Except DecodeError Calibration := do
  ofBytes (← Hex.decodeValue value)

def toList (c : Calibration) : List Int :=
  [c.c0.toInt, c.c1.toInt, c.c2.toInt, c.c3.toInt,
    c.c4.toInt, c.c5.toInt, c.c6.toInt, c.c7.toInt]

end Calibration

end SensorTag

end BleBeacon
