import BleBeacon.Text.Hex
import BleBeacon.Text.Basic

/-!
Universally unique identifiers. An identifier is written in five groups of lower case digits with
hyphens between them. It is read from its thirty-two digits, or from the five groups, which may
stand in braces or behind `urn:uuid:`.
-/

namespace BleBeacon

-- A 128 bit identifier, most significant byte first.
structure Uuid where
  octets : Octets 16
deriving DecidableEq

namespace Uuid

def bytes (u : Uuid) : Bytes := u.octets.1

def simple (u : Uuid) : String := Hex.encode u.bytes

-- The digits of an identifier in groups of 8, 4, 4, 4 and 12.
def chars (u : Uuid) : List Char :=
  let ds := Hex.digits u.bytes
  ds.take 8 ++ '-' :: (ds.drop 8).take 4 ++ '-' :: (ds.drop 12).take 4
    ++ '-' :: (ds.drop 16).take 4 ++ '-' :: ds.drop 20

def text (u : Uuid) : String := String.ofList u.chars

def ofDigits? (cs : List Char) : Option Uuid :=
  match Hex.decode? cs with
  | none => none
  | some bytes => if h : bytes.length = 16 then some ⟨bytes, h⟩ else none

-- The digits of five groups of 8, 4, 4, 4 and 12 characters.
def ungroup? (cs : List Char) : Option (List Char) :=
  let groups := cs.splitOn '-'
  if groups.map List.length = [8, 4, 4, 4, 12] then some groups.flatten else none

/-- What stands between the braces or behind the name space of a text, if one of them is there. -/
def unwrap (cs : List Char) : List Char :=
  match cs with
  | '\x7b' :: rest => if rest.getLast? = some '\x7d' then rest.dropLast else cs
  | _ =>
    if (cs.take 9).map Char.toLower = "urn:uuid:".toList then cs.drop 9 else cs

def parse? (s : String) : Option Uuid :=
  let cs := s.toList
  if cs.length = 32 then ofDigits? cs
  else (ungroup? (unwrap cs)).bind ofDigits?

end Uuid

end BleBeacon
