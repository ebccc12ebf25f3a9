import BleBeacon.Text.Hex

/-!
HCI commands as H4 packets: the packet type, the opcode with its low byte first, the number of
parameter bytes, the parameters.
-/

namespace BleBeacon.Hci

def commandPacket : UInt8 := 0x01

def leController : UInt16 := 0x08

/-- The opcode of a command: six bits of group above ten bits of command. Higher bits of the group
are lost. -/
def opcode (group command : UInt16) : UInt16 := (group <<< 10) ||| command

/-- The packet of a command. The count of parameter bytes is a byte. -/
def command (group command : UInt16) (parameters : Bytes) : Bytes :=
  commandPacket :: Bytes.ofNatLE 2 (opcode group command).toNat
    ++ UInt8.ofNat parameters.length :: parameters

/-- Advertise without connections from the public address, on all channels and to everyone, at
intervals in units of 0.625 ms. -/
def setAdvertisingParameters (intervalMin intervalMax : UInt16) : Bytes :=
  command leController 0x0006
    (Bytes.ofNatLE 2 intervalMin.toNat ++ Bytes.ofNatLE 2 intervalMax.toNat
      ++ [0x03, 0x00, 0x00] ++ List.replicate 6 0 ++ [0x07, 0x00])

/-- Advertise this data, given as hexadecimal text. An empty text stands for a beacon that has
none. -/
def setAdvertisingData (encoded : String) : Except DecodeError Bytes :=
  if encoded = "" then .error .noAdvertisingData
  else do
    let data ← Hex.decode encoded
    if maxAdvertisingData < data.length then .error (.advertisingDataTooLong data.length)
    else return command leController 0x0008 data

def setAdvertisingEnable (enable : Bool) : Bytes :=
  command leController 0x000A [if enable then 1 else 0]

/-- Scan passively from the public address, whoever sends, with times in units of 0.625 ms. -/
def setScanParameters (interval window : UInt16) : Bytes :=
  command leController 0x000B
    ([0x00] ++ Bytes.ofNatLE 2 interval.toNat ++ Bytes.ofNatLE 2 window.toNat ++ [0x00, 0x00])

-- Begin or end scanning, with repeated reports or without them.
def setScanEnable (enable filterDuplicates : Bool) : Bytes :=
  command leController 0x000C [if enable then 1 else 0, if filterDuplicates then 1 else 0]

end BleBeacon.Hci
