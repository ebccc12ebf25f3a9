import BleBeacon.Text.CharSet

/-!
Patterns of text, and where they occur. A text of `n` characters has `n + 1` positions. A pattern
leads from a position to those at which its occurrences there end; it is run on all positions of a
set at once. A set of positions is a number whose bit `i` stands for position `i`.
-/

namespace BleBeacon

inductive Look where
  | textStart
  | textEnd
  -- The start of a line; with `crlf` a line ends at a carriage return too.
  | lineStart (crlf : Bool)
  | lineEnd (crlf : Bool)
  -- Exactly one of the characters around is a word character.
  | wordEdge
  -- Both of the characters around are word characters, or neither.
  | noWordEdge
  | wordStart
  | wordEnd
  -- There is no word character in front.
  | noWordBefore
  -- There is no word character behind.
  | noWordAfter
deriving DecidableEq, Repr

namespace Look

def isWordChar (c : Char) : Bool := c.isAlphanum || c == '_'

def isAboutWords : Look → Bool
  | textStart | textEnd | lineStart _ | lineEnd _ => false
  | _ => true

/-- Whether a condition holds between two characters, of which there is none at the ends. The two
characters of a line break are not parted. -/
def holds (l : Look) (before after : Option Char) : Bool :=
  let wordBefore := before.any isWordChar
  let wordAfter := after.any isWordChar
  match l with
  | textStart => before.isNone
  | textEnd => after.isNone
  | lineStart false => before.isNone || before == some '\n'
  | lineEnd false => after.isNone || after == some '\n'
  | lineStart true =>
    before.isNone || before == some '\n' || (before == some '\r' && after != some '\n')
  | lineEnd true =>
    after.isNone || after == some '\r' || (after == some '\n' && before != some '\r')
  | wordEdge => wordBefore != wordAfter
  | noWordEdge => wordBefore == wordAfter
  | wordStart => !wordBefore && wordAfter
  | wordEnd => wordBefore && !wordAfter
  | noWordBefore => !wordBefore
  | noWordAfter => !wordAfter

end Look

inductive Pattern where
  | empty
  | one (set : CharSet)
  -- A condition; `unicode` if its word characters are those of all scripts.
  | look (l : Look) (unicode : Bool)
  | sequence (first second : Pattern)
  | choice (first second : Pattern)
  -- At least `least` times, and at most `most` times if there is a limit.
  | repeated (least : Nat) (most : Option Nat) (p : Pattern)
  | group (p : Pattern)
deriving DecidableEq, Repr

namespace Pattern

abbrev Positions := Nat

-- The positions in front of the characters of a set.
def positionsOf (set : CharSet) : List Char → Positions
  | [] => 0
  | c :: rest => 2 * positionsOf set rest + (set.contains c).toNat

/-- The positions where a condition holds, in a text that stands behind `before`. -/
def positionsWhere (l : Look) (before : Option Char) : List Char → Positions
  | [] => (l.holds before none).toNat
  | c :: rest => 2 * positionsWhere l (some c) rest + (l.holds before (some c)).toNat

/-- Exactly `n` steps. The steps end once they change nothing. -/
def steps (f : Positions → Positions) : Nat → Positions → Positions
  | 0, s => s
  | n + 1, s =>
    let next := f s
    if next = s then s else steps f n next

def reach (f : Positions → Positions) : Nat → Positions → Positions
  | 0, s => s
  | n + 1, s =>
    let next := s ||| f s
    if next = s then s else reach f n next

/-- The positions where the occurrences end that start at some positions. Without a limit, as many
repetitions are enough as there are characters. -/
def ends (text : List Char) : Pattern → Positions → Positions
  | empty, s => s
  | one set, s => 2 * (s &&& positionsOf set text)
  | look l _, s => s &&& positionsWhere l none text
  | sequence p q, s => q.ends text (p.ends text s)
  | choice p q, s => p.ends text s ||| q.ends text s
  | repeated least most p, s =>
    let more := match most with
      | some n => n - least
      | none => text.length
    reach (fun s => p.ends text s) more (steps (fun s => p.ends text s) least s)
  | group p, s => p.ends text s

def allPositions : List Char → Positions
  | [] => 1
  | _ :: rest => 2 * allPositions rest + 1

def occursIn (p : Pattern) (text : List Char) : Bool := p.ends text (allPositions text) != 0

def isEmptyOnly : Pattern → Bool
  | empty | look .. => true
  | one _ => false
  | sequence p q | choice p q => p.isEmptyOnly && q.isEmptyOnly
  | repeated _ most p => most = some 0 || p.isEmptyOnly
  | group p => p.isEmptyOnly

def append : Pattern → Pattern → Pattern
  | empty, q => q
  | p, empty => p
  | p, q => sequence p q

/-- A repetition. To repeat what is empty more than once changes nothing. -/
def repetition (least : Nat) (most : Option Nat) (p : Pattern) : Pattern :=
  let (least, most) :=
    if p.isEmptyOnly then (min least 1, some ((most.map (min · 1)).getD 1)) else (least, most)
  if most = some 0 then empty
  else if least = 1 ∧ most = some 1 then p
  else repeated least most p

-- Whether a condition asks for the word characters of all scripts.
def asksForScripts : Pattern → Bool
  | empty | one _ => false
  | look l unicode => unicode && l.isAboutWords
  | sequence p q | choice p q => p.asksForScripts || q.asksForScripts
  | repeated _ _ p | group p => p.asksForScripts

end Pattern

end BleBeacon
