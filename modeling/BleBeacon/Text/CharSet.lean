/-!
Sets of characters as ranges of their numbers. The ranges of a set ascend and neither overlap nor
touch, so that equal sets have equal ranges.
-/

namespace BleBeacon

-- A set of characters: the first and the last number of each range.
structure CharSet where
  ranges : List (Nat × Nat)
deriving DecidableEq, Repr

namespace CharSet

def containsCode (s : CharSet) (n : Nat) : Bool :=
  s.ranges.any fun (low, high) => low ≤ n && n ≤ high

def contains (s : CharSet) (c : Char) : Bool := s.containsCode c.toNat

def empty : CharSet := ⟨[]⟩

def maxCode : Nat := 0x10FFFF

/-- The ranges together with one more. Ranges that overlap or touch it become part of it. -/
def insertRange (low high : Nat) : List (Nat × Nat) → List (Nat × Nat)
  | [] => [(low, high)]
  | (l, h) :: rest =>
    if high + 1 < l then (low, high) :: (l, h) :: rest
    else if h + 1 < low then (l, h) :: insertRange low high rest
    else insertRange (min low l) (max high h) rest

-- The set of the characters in some ranges, which need not be in order.
def ofRanges (ranges : List (Nat × Nat)) : CharSet :=
  ⟨ranges.foldl (fun acc (low, high) => insertRange low high acc) []⟩

def single (c : Char) : CharSet := ⟨[(c.toNat, c.toNat)]⟩

def union (a b : CharSet) : CharSet := ofRanges (a.ranges ++ b.ranges)

-- The numbers from `start` to `last` that are in none of the ranges.
def gaps (last start : Nat) : List (Nat × Nat) → List (Nat × Nat)
  | [] => if start ≤ last then [(start, last)] else []
  | (l, h) :: rest =>
    if start < l then (start, l - 1) :: gaps last (h + 1) rest else gaps last (h + 1) rest

-- The characters up to the number `last` that are not in the set.
def complement (s : CharSet) (last : Nat) : CharSet := ⟨gaps last 0 s.ranges⟩

def inter (a b : CharSet) : CharSet :=
  ofRanges <| a.ranges.flatMap fun (l, h) => b.ranges.filterMap fun (l', h') =>
    if max l l' ≤ min h h' then some (max l l', min h h') else none

-- The characters in the first set and not in the second.
def diff (a b : CharSet) : CharSet := a.inter (b.complement maxCode)

-- The characters in one of the sets and not in both.
def symmDiff (a b : CharSet) : CharSet := (a.diff b).union (b.diff a)

def isAscii (s : CharSet) : Bool := s.ranges.all fun (_, high) => high < 128

-- Together with each ASCII letter its other case.
def withBothCases (s : CharSet) : CharSet :=
  let letters (first : Nat) : CharSet := s.inter ⟨[(first, first + 25)]⟩
  let shifted (first : Nat) (shift : Nat → Nat) : List (Nat × Nat) :=
    (letters first).ranges.map fun (low, high) => (shift low, shift high)
  ofRanges (s.ranges ++ shifted 65 (· + 32) ++ shifted 97 (· - 32))

end CharSet

end BleBeacon
