import BleBeacon.Bytes
import BleBeacon.DecodeError

/-!
The AD structures of an advertising payload: a length byte, a type byte and data, one after another.
The length counts the type and the data but not itself; a zero length ends the payload, because
controllers pad with zeros. A walk is a value, so a copy of it goes on from the same place.
-/

namespace BleBeacon

inductive AdType where
  | flags
  | serviceList
  | serviceData
  | manufacturerData
deriving DecidableEq, Repr

def AdType.code : AdType → UInt8
  | flags => 0x01
  | serviceList => 0x03
  | serviceData => 0x16
  | manufacturerData => 0xFF

structure AdStructure where
  -- Where its length byte stands in the payload.
  offset : Nat
  type : UInt8
  data : Bytes
deriving DecidableEq, Repr

def AdStructure.serialize (s : AdStructure) : Bytes :=
  UInt8.ofNat (s.data.length + 1) :: s.type :: s.data

/-- A place in a payload: the number of bytes before it and the bytes from it on. -/
structure AdWalk where
  offset : Nat
  rest : Bytes
deriving DecidableEq, Repr

namespace AdWalk

def ofPayload (payload : Bytes) : AdWalk := ⟨0, payload⟩

/-- The next item and the walk behind it. A structure that declares more bytes than remain is an
error, and nothing follows it. -/
def next? (w : AdWalk) : Option (Except DecodeError AdStructure × AdWalk) :=
  match w.rest with
  | [] => none
  | length :: tail =>
    if length = 0 then none
    else if tail.length < length.toNat then
      some (.error (.truncatedStructure w.offset length.toNat tail.length), ⟨w.offset, []⟩)
    else
      match tail.take length.toNat with
      | [] => none
      | type :: data =>
        some (.ok ⟨w.offset, type, data⟩, ⟨w.offset + length.toNat + 1, tail.drop length.toNat⟩)

theorem next?_shortens {w w' : AdWalk} {item : Except DecodeError AdStructure}
    (h : w.next? = some (item, w')) : w'.rest.length < w.rest.length := by
  unfold next? at h
  split at h
  · cases h
  · rename_i length tail hrest
    rw [hrest]
    split at h
    · cases h
    · split at h
      · cases h; simp
      · split at h
        · cases h
        · cases h
          simp only [List.length_drop, List.length_cons]
          omega

def items (w : AdWalk) : List (Except DecodeError AdStructure) :=
  match _h : w.next? with
  | none => []
  | some (item, w') => item :: w'.items
termination_by w.rest.length
decreasing_by exact next?_shortens _h

-- The walk after `count` more items, if there are so many.
def skip? (w : AdWalk) : Nat → Option AdWalk
  | 0 => some w
  | count + 1 =>
    match w.next? with
    | none => none
    | some (_, w') => w'.skip? count

end AdWalk

def adItems (payload : Bytes) : List (Except DecodeError AdStructure) :=
  (AdWalk.ofPayload payload).items

end BleBeacon
