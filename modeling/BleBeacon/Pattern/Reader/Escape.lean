import BleBeacon.Pattern.Cursor

/-!
Reading what follows a backslash: characters by their number, classes and properties of characters,
conditions on a position, and characters that would otherwise mean something.
-/

namespace BleBeacon.Pattern

abbrev Reading := Except Fault

def fail {α : Type} (kind : FaultKind) (span : Span) : Reading α := .error ⟨kind, span, none⟩

def hexValue? (c : Char) : Option Nat :=
  if '0' ≤ c ∧ c ≤ '9' then some (c.toNat - 48)
  else if 'a' ≤ c ∧ c ≤ 'f' then some (c.toNat - 87)
  else if 'A' ≤ c ∧ c ≤ 'F' then some (c.toNat - 55)
  else none

def hexChar? (digits : List Char) : Option Char :=
  let n := digits.foldl (fun n c => 16 * n + (hexValue? c).getD 0) 0
  if n.isValidChar then some (Char.ofNat n) else none

def readHexDigits : Nat → Cursor → Reading (List Char × Cursor)
  | 0, c => .ok ([], c)
  | n + 1, c =>
    match c.char? with
    | none => fail .escapeAtEnd c.here
    | some char =>
      if (hexValue? char).isNone then fail .hexDigitInvalid c.charSpan
      else do
        let (more, behind) ← readHexDigits n c.advance
        return (char :: more, behind)

/-- A character by its number, of `count` digits or in braces. The cursor is at the letter. -/
def readHex (start c : Cursor) (count : Nat) : Reading (Expression × Cursor) := do
  let c := c.advance
  if c.atEnd then fail .escapeAtEnd c.here
  else if c.at? '\x7b' then
    let inside := c.advance
    let (digits, closing) := inside.collect fun char => (hexValue? char).isSome
    let behind := closing.advance
    if closing.atEnd then fail .escapeAtEnd (c.upTo closing)
    else if !closing.at? '\x7d' then fail .hexDigitInvalid closing.charSpan
    else if digits.isEmpty then fail .hexEmpty (c.upTo behind)
    else
      match hexChar? digits with
      | none => fail .hexNotCharacter (c.next.upTo closing)
      | some char => return (.literal ⟨start.upTo behind, char, false⟩, behind)
  else
    let (digits, behind) ← readHexDigits count c
    match hexChar? digits with
    | none => fail .hexNotCharacter (c.upTo behind)
    | some char => return (.literal ⟨start.upTo behind, char, count == 2⟩, behind)

/-- A property, by one letter or by a name in braces. The cursor is at the letter p. -/
def readProperty (start c : Cursor) : Reading (Expression × Cursor) :=
  let negated := c.at? 'P'
  let c := c.advance
  match c.char? with
  | none => fail .escapeAtEnd c.here
  | some char =>
    if char = '\x7b' then
      let (name, closing) := c.advance.collect (· ≠ '\x7d')
      if closing.atEnd then fail .escapeAtEnd closing.here
      else
        let behind := closing.next
        let hasValue := name.any fun char => char == ':' || char == '='
        .ok (.set (.property (start.upTo behind) negated ⟨String.ofList name, hasValue⟩), behind)
    else if char = '\\' then fail .propertyInvalid c.charSpan
    else
      let behind := c.advance
      .ok (.set (.property (start.upTo behind) negated ⟨String.singleton char, false⟩), behind)

def isMeta (c : Char) : Bool := "\\.+*?()|[]\x7b\x7d^$#&-~".toList.contains c

-- Characters that may stand behind a backslash for themselves.
def isEscapable (c : Char) : Bool :=
  isMeta c || (c.toNat < 128 && !c.isAlphanum && c != '<' && c != '>')

def controlChar? : Char → Option Char
  | 'a' => some '\x07'
  | 'f' => some '\x0c'
  | 't' => some '\t'
  | 'n' => some '\n'
  | 'r' => some '\r'
  | 'v' => some '\x0b'
  | _ => none

def look? : Char → Option Look
  | 'A' => some .textStart
  | 'z' => some .textEnd
  | 'b' => some .wordEdge
  | 'B' => some .noWordEdge
  | '<' => some .wordStart
  | '>' => some .wordEnd
  | _ => none

def namedLook? : String → Option Look
  | "start" => some .wordStart
  | "end" => some .wordEnd
  | "start-half" => some .noWordBefore
  | "end-half" => some .noWordAfter
  | _ => none

/-- A name in braces behind the letter b, at the opening brace; nothing if what stands in the braces
is the count of a repetition. -/
def readNamedLook (start c : Cursor) : Reading (Option (Look × Cursor)) :=
  let inside := c.advance
  let isNameChar (char : Char) : Bool := char.isAlpha || char == '-'
  match inside.char? with
  | none => fail .wordEdgeOrCountUnclosed (start.upTo inside)
  | some char =>
    if !isNameChar char then .ok none
    else
      let (name, closing) := inside.collect isNameChar
      if !closing.at? '\x7d' then fail .wordEdgeUnclosed (c.upTo closing)
      else
        match namedLook? (String.ofList name) with
        | none => fail .wordEdgeUnknown (inside.upTo closing)
        | some l => .ok (some (l, closing.next))

def readEscape (start : Cursor) : Reading (Expression × Cursor) := do
  let c := start.next
  let behind := c.next
  let span := start.upTo behind
  let some char := c.char? | fail .escapeAtEnd (start.upTo c)
  if char.isDigit then fail .backreference span
  else if char = 'x' then readHex start c 2
  else if char = 'u' then readHex start c 4
  else if char = 'U' then readHex start c 8
  else if char = 'p' ∨ char = 'P' then readProperty start c
  else if let some (kind, negated) := LetterClass.ofLetter? char then
    return (.set (.lettered span negated kind), behind)
  else if isEscapable char then return (.literal ⟨span, char, false⟩, behind)
  else if let some control := controlChar? char then
    return (.literal ⟨span, control, false⟩, behind)
  else if let some l := look? char then
    if char = 'b' ∧ behind.at? '\x7b' then
      match ← readNamedLook start behind with
      | some (l, behind) => return (.assertion (start.upTo behind) (.plain l), behind)
      | none => return (.assertion span (.plain l), behind)
    else return (.assertion span (.plain l), behind)
  else fail .escapeUnknown span

end BleBeacon.Pattern
