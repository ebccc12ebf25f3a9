/-!
Texts as lists of characters: blanks in the sense of the Unicode property `White_Space`, of which
core knows only the ASCII ones, the bytes of a text in UTF-8, occurrences of one text in another,
and whole numbers. A numeral is one or more ASCII digits, with at most one sign in front; nothing
else is accepted, no blanks and no separators.
-/

namespace BleBeacon

-- Characters of the Unicode property `White_Space`.
def isBlank (c : Char) : Bool :=
  let n := c.toNat
  (9 ≤ n && n ≤ 13) || n == 0x20 || n == 0x85 || n == 0xA0 || n == 0x1680
    || (0x2000 ≤ n && n ≤ 0x200A) || n == 0x2028 || n == 0x2029 || n == 0x202F
    || n == 0x205F || n == 0x3000

def trimLeft (cs : List Char) : List Char := cs.dropWhile isBlank

def trimRight (cs : List Char) : List Char := (cs.reverse.dropWhile isBlank).reverse

def trim (cs : List Char) : List Char := trimRight (trimLeft cs)

-- The number of bytes that UTF-8 takes for a text.
def utf8Length : List Char → Nat
  | [] => 0
  | c :: rest => c.utf8Size + utf8Length rest

def utf8Bytes (cs : List Char) : List UInt8 := cs.flatMap String.utf8EncodeChar

def occursIn (part : List Char) : List Char → Bool
  | [] => part.isEmpty
  | c :: rest => part.isPrefixOf (c :: rest) || occursIn part rest

namespace Numeral

def digitValue? (c : Char) : Option Nat :=
  if '0' ≤ c ∧ c ≤ '9' then some (c.toNat - 48) else none

-- The number that digits spell when `value` stands in front of them.
def digitsFrom? (value : Nat) : List Char → Option Nat
  | [] => some value
  | c :: rest => do digitsFrom? (10 * value + (← digitValue? c)) rest

def digits? (cs : List Char) : Option Nat :=
  if cs = [] then none else digitsFrom? 0 cs

def unsigned? (bound : Nat) (cs : List Char) : Option Nat := do
  let n ← digits? (match cs with | '+' :: rest => rest | _ => cs)
  if n < bound then some n else none

-- A number with either sign or none, from `low` to `high`.
def integer? (low high : Int) (cs : List Char) : Option Int := do
  let n ← match cs with
    | '+' :: rest => (digits? rest).map Int.ofNat
    | '-' :: rest => (digits? rest).map fun n => -(Int.ofNat n)
    | _ => (digits? cs).map Int.ofNat
  if low ≤ n ∧ n ≤ high then some n else none

end Numeral

end BleBeacon
