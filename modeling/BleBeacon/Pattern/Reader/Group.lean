import BleBeacon.Pattern.Reader.Escape
import BleBeacon.Text.Alphabetic

/-!
Reading what opens a group, and the count of a repetition. An opening parenthesis may be followed by
a name, by flags, or by nothing; flags without a colon open no group and hold for what follows.
-/

namespace BleBeacon.Pattern

def flag? : Char → Option Flag
  | 'i' => some .ignoreCase
  | 'm' => some .multiLine
  | 's' => some .dotAll
  | 'U' => some .swapGreed
  | 'u' => some .unicode
  | 'R' => some .crlf
  | 'x' => some .verbose
  | _ => none

structure FlagList where
  changes : FlagChanges
  -- Where the flags stand that were read so far.
  places : List (Flag × Span)
  -- Where the minus sign stands, behind which flags are switched off.
  minus : Option Span
  -- Whether the minus sign was read last.
  dangling : Bool

namespace FlagList

def empty : FlagList := ⟨[], [], none, false⟩

def push (flags : FlagList) (char : Char) (span : Span) : Reading FlagList :=
  if char = '-' then
    match flags.minus with
    | some other => .error ⟨.negationRepeated, span, some other⟩
    | none => .ok { flags with minus := some span, dangling := true }
  else
    match flag? char with
    | none => fail .flagUnknown span
    | some flag =>
      match flags.places.lookup flag with
      | some other => .error ⟨.flagRepeated, span, some other⟩
      | none => .ok {
          changes := flags.changes ++ [(flag, flags.minus.isNone)]
          places := (flag, span) :: flags.places
          minus := flags.minus
          dangling := false }

end FlagList

-- Flags up to a colon or a closing parenthesis, which is not read.
def readFlags (flags : FlagList) (c : Cursor) : Reading (FlagChanges × Cursor) :=
  match _h : c.rest with
  | [] => fail .flagsUnclosed c.here
  | char :: _ =>
    if char = ':' ∨ char = ')' then
      match flags.minus, flags.dangling with
      | some span, true => fail .negationDangling span
      | _, _ => .ok (flags.changes, c)
    else
      match flags.push char c.charSpan with
      | .error f => .error f
      | .ok flags => readFlags flags c.next
termination_by c.rest.length
decreasing_by simp [Cursor.next, _h]

def isNameChar (first : Bool) (c : Char) : Bool :=
  if first then c == '_' || isLetter c
  else c == '_' || c == '.' || c == '[' || c == ']' || isLetterOrNumber c

-- The name of a group, up to the closing angle bracket, which is read too.
def readName (start c : Cursor) (name : List Char) : Reading (String × Cursor) :=
  match _h : c.rest with
  | [] => fail .groupNameUnclosed c.here
  | char :: _ =>
    if char = '>' then
      if name.isEmpty then fail .groupNameEmpty start.here
      else .ok (String.ofList name.reverse, c.next)
    else if isNameChar name.isEmpty char then readName start c.next (char :: name)
    else fail .groupNameInvalid c.charSpan
termination_by c.rest.length
decreasing_by simp [Cursor.next, _h]

inductive Opening where
  | flags (changes : FlagChanges)
  -- A group, with its name and where the name stands.
  | group (remembered : Bool) (changes : FlagChanges) (name : Option (String × Span))

-- What an opening parenthesis opens, and the cursor behind that.
def readOpening (start : Cursor) : Reading (Opening × Cursor) := do
  let c := start.next.skip
  let lookAround := ["?=", "?!", "?<=", "?<!"].findSome? fun text => c.take? text.toList
  if let some behind := lookAround then fail .lookAround (start.upTo behind)
  else if let some named := (c.take? "?P<".toList).or (c.take? "?<".toList) then
    let (name, behind) ← readName named named []
    let span : Span := ⟨named.place, ⟨named.place.line, behind.place.column - 1⟩⟩
    return (.group true [] (some (name, span)), behind)
  else if let some behind := c.take? "?".toList then
    if behind.atEnd then fail .groupUnclosed start.charSpan
    else
      let (changes, closing) ← readFlags .empty behind
      if closing.at? ')' then
        if changes.isEmpty then fail .nothingToRepeat c.here
        else return (.flags changes, closing.next)
      else return (.group false changes none, closing.next)
  else return (.group true [] none, c)

def maxCount : Nat := 0xFFFFFFFF

/-- The number that comes next, with blanks around it. It may be wrong only in the end, so the cursor
behind it is there in any case. -/
def readNumber (c : Cursor) : Reading Nat × Cursor :=
  let c := (c.collect isBlank).2
  let (digits, behind) := c.collect Char.isDigit
  let n := digits.foldl (fun n d => 10 * n + (d.toNat - 48)) 0
  let number : Reading Nat :=
    if digits.isEmpty then fail .countEmpty (c.upTo behind)
    else if maxCount < n then fail .numberTooLarge (c.upTo behind)
    else .ok n
  (number, (behind.collect isBlank).2)

/-- The count of a repetition, at its opening brace: the least and the greatest number. -/
def readCount (start : Cursor) : Reading ((Nat × Option Nat) × Cursor) := do
  let unclosed {α : Type} (c : Cursor) : Reading α := fail .countUnclosed (start.upTo c)
  let c := start.advance
  if c.atEnd then unclosed c
  let (low, c) := readNumber c
  if c.atEnd then unclosed c
  let (least, most, c) ←
    if c.at? ',' then
      let c := c.advance
      if c.atEnd then unclosed c
      else if c.at? '\x7d' then pure (← low, none, c)
      else
        let low ← low
        let (high, c) := readNumber c
        pure (low, some (← high), c)
    else
      let low ← low
      pure (low, some low, c)
  if !c.at? '\x7d' then unclosed c
  let c := c.advance
  let c := if c.at? '?' then c.next else c
  if most.any (· < least) then fail .countReversed (start.upTo c)
  return ((least, most), c)

end BleBeacon.Pattern
