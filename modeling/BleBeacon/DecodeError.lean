import BleBeacon.SensorTag.Basic

/-!
Why bytes or texts cannot be decoded. A payload that simply carries no beacon is not an error.
-/

namespace BleBeacon

inductive ReportField where
  | header
  | eventType
  | addressType
  | address
  | dataLength
  | payload
  | rssi
deriving DecidableEq, Repr

def ReportField.name : ReportField → String
  | header => "event header"
  | eventType => "event type"
  | addressType => "address type"
  | address => "address"
  | dataLength => "data length"
  | payload => "AD payload"
  | rssi => "RSSI"

inductive DecodeError where
  -- A hexadecimal text takes an odd number of bytes.
  | oddHexLength (length : Nat)
  -- A hexadecimal text holds something other than digits.
  | notHex (text : String)
  -- There is no advertising data to send.
  | noAdvertisingData
  -- A field of a value reaches past the end.
  | fieldOutOfRange (offset width length : Nat)
  -- An AD structure declares more bytes than remain.
  | truncatedStructure (offset declared remaining : Nat)
  -- A part of an advertising event ends behind the event.
  | malformedReport (field : ReportField) (needed length : Nat)
  -- A value is shorter than its decoder needs.
  | tooShort (expected actual : Nat)
  -- Advertising data is longer than a controller takes.
  | advertisingDataTooLong (length : Nat)
  -- The barometer of this generation cannot be read without its calibration.
  | missingCalibration (firmware : SensorTag.Firmware)
deriving DecidableEq, Repr

-- Advertising data is at most 31 bytes and the byte that counts them.
def maxAdvertisingData : Nat := 32

def DecodeError.message : DecodeError → String
  | oddHexLength length => s!"Invalid hex string: Odd number of hex characters: {length}"
  | notHex text => s!"Invalid hex string: {text}"
  | noAdvertisingData => "Invalid hex string: no advertising data"
  | fieldOutOfRange offset width length =>
    s!"Cannot read {width} bytes at offset {offset} from a {length} byte buffer"
  | truncatedStructure offset declared remaining =>
    s!"AD structure at offset {offset} declares {declared} bytes but only {remaining} remain"
  | malformedReport field needed length =>
    "Malformed advertising report: " ++ field.name ++
      s!" needs {needed} bytes but the event is {length} bytes long"
  | tooShort expected actual =>
    s!"Invalid data length: Expected at least {expected} bytes, got {actual}"
  | advertisingDataTooLong length =>
    s!"Invalid data length: Advertising data is {length} bytes, at most {maxAdvertisingData} fit"
  | missingCalibration firmware =>
    "Barometer calibration data is required for " ++ firmware.name

end BleBeacon
