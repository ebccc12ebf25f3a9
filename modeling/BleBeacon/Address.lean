import BleBeacon.Text.Hex
import BleBeacon.Text.Basic

/-!
Bluetooth device addresses. An address is written as six upper case pairs of digits, most
significant first, with colons between them; a controller sends its bytes the other way round.
-/

namespace BleBeacon

-- A 48 bit device address, most significant byte first.
structure DeviceAddress where
  octets : Octets 6
deriving DecidableEq

inductive AddressError where
  | partCount (count : Nat)
  | partLength (index : Nat)
  | notHex (part : String)
deriving DecidableEq, Repr

def AddressError.message : AddressError → String
  | partCount count => s!"invalid address: expected 6 parts, got {count}"
  | partLength index => s!"invalid address: part {index} has wrong length"
  | notHex part => "invalid address: '" ++ part ++ "' is not valid hex"

namespace DeviceAddress

-- The address whose bytes a controller sent, least significant first.
def ofWire (octets : Octets 6) : DeviceAddress := ⟨octets.reverse⟩

-- The bytes of an address, most significant first.
def bytes (a : DeviceAddress) : Bytes := a.octets.1

def upperPair (b : UInt8) : List Char := (Hex.byteDigits b).map Char.toUpper

def chars (a : DeviceAddress) : List Char :=
  [':'].intercalate (a.bytes.map upperPair)

def text (a : DeviceAddress) : String := String.ofList a.chars

/-- The byte that the two characters of a part spell. A plus sign may take the place of the first
digit. -/
def partByte? : List Char → Option UInt8
  | ['+', low] => (Hex.value? low).map UInt8.ofNat
  | [high, low] => Hex.pair? high low
  | _ => none

/-- The bytes of the parts from number `index` on. The length of a part, in bytes of UTF-8, is
looked at before its digits. -/
def readParts (index : Nat) : List (List Char) → Except AddressError Bytes
  | [] => .ok []
  | part :: rest =>
    if utf8Length part ≠ 2 then .error (.partLength index)
    else
      match partByte? part with
      | none => .error (.notHex (String.ofList part))
      | some b => do return b :: (← readParts (index + 1) rest)

theorem length_readParts {index : Nat} {parts : List (List Char)} {bs : Bytes}
    (h : readParts index parts = .ok bs) : bs.length = parts.length := by
  induction parts generalizing index bs with
  | nil => cases h; rfl
  | cons part rest ih =>
    unfold readParts at h
    split at h
    · cases h
    · split at h
      · cases h
      · cases hrest : readParts (index + 1) rest with
        | error e => rw [hrest] at h; cases h
        | ok tail =>
          rw [hrest] at h
          cases h
          simp [ih hrest]

def parse (s : String) : Except AddressError DeviceAddress :=
  let parts := s.toList.splitOn ':'
  if count : parts.length = 6 then
    match read : readParts 0 parts with
    | .error e => .error e
    | .ok bytes => .ok ⟨bytes, (length_readParts read).trans count⟩
  else .error (.partCount parts.length)

-- The order of addresses is that of their bytes.
def le (a b : DeviceAddress) : Bool := decide (a.bytes ≤ b.bytes)

def sort (addresses : List DeviceAddress) : List DeviceAddress := addresses.mergeSort le

end DeviceAddress

inductive AddressType where
  | publicDevice
  | randomDevice
  | publicIdentity
  | randomIdentity
  | other (code : UInt8)
deriving DecidableEq, Repr

namespace AddressType

def ofCode (code : UInt8) : AddressType :=
  match code.toNat with
  | 0 => .publicDevice
  | 1 => .randomDevice
  | 2 => .publicIdentity
  | 3 => .randomIdentity
  | _ => .other code

def code : AddressType → UInt8
  | publicDevice => 0
  | randomDevice => 1
  | publicIdentity => 2
  | randomIdentity => 3
  | other code => code

end AddressType

end BleBeacon
