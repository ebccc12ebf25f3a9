import BleBeacon.Pattern.Reader.Escape

/-!
Reading a set of characters in brackets. Brackets may stand in one another, and what stands between
two of them is a union or an operation on unions, applied from the left.
-/

namespace BleBeacon.Pattern

-- A pair of brackets whose closing one is not read yet.
structure OpenSet where
  -- Where the opening bracket stands, with what is part of it.
  opening : Span
  negated : Bool
  -- What stands in front of the last operator, and the operator.
  left : Option (SetExpression × SetOperation)
  -- The parts behind the last operator, last one first.
  parts : List SetExpression
  span : Span

namespace OpenSet

def push (s : OpenSet) (part : SetExpression) : OpenSet :=
  let first := if s.parts.isEmpty then part.span.first else s.span.first
  { s with parts := part :: s.parts, span := ⟨first, part.span.behind⟩ }

-- The union of the parts behind the last operator.
def union (s : OpenSet) : SetExpression :=
  match s.parts with
  | [] => .empty s.span
  | [part] => part
  | parts => .union s.span parts.reverse

def content (s : OpenSet) : SetExpression :=
  match s.left with
  | none => s.union
  | some (left, op) => .operation ⟨left.span.first, s.union.span.behind⟩ op left s.union

def operator (s : OpenSet) (op : SetOperation) (behind : Cursor) : OpenSet :=
  { s with left := some (s.content, op), parts := [], span := behind.here }

end OpenSet

def plainLiteral (c : Cursor) (char : Char) : SetExpression := .literal ⟨c.charSpan, char, false⟩

-- Hyphens at the start, which stand for themselves.
def readHyphens (start : Cursor) (s : OpenSet) (c : Cursor) : Reading (OpenSet × Cursor) :=
  if _h : c.char? = some '-' then
    let behind := c.advance
    if behind.atEnd then fail .setUnclosed start.here
    else readHyphens start (s.push (plainLiteral c '-')) behind
  else .ok (s, c)
termination_by c.rest.length
decreasing_by
  refine Cursor.length_advance_lt fun none => ?_
  simp [Cursor.char?, none] at _h

/-- An opening bracket, with a caret, hyphens or a closing bracket behind it that are part of the
opening or stand for themselves. -/
def readSetOpening (start : Cursor) : Reading (OpenSet × Cursor) := do
  let unclosed {α : Type} (c : Cursor) : Reading α := fail .setUnclosed (start.upTo c)
  let c := start.advance
  if c.atEnd then unclosed c
  else
    let negated := c.at? '^'
    let c := if negated then c.advance else c
    if c.atEnd then unclosed c
    else
      let (s, c) ← readHyphens start ⟨start.here, negated, none, [], c.here⟩ c
      if s.parts.isEmpty && c.at? ']' then
        let behind := c.advance
        if behind.atEnd then unclosed behind
        else
          return ({ s.push (plainLiteral c ']') with opening := start.upTo behind }, behind)
      else return ({ s with opening := start.upTo c }, c)

-- An ASCII class with its name, at the opening bracket.
def readNamedSet? (start : Cursor) : Option (SetExpression × Cursor) := do
  let c ← start.take? "[:".toList
  let negated := c.at? '^'
  let c := if negated then c.next else c
  let name := c.rest.takeWhile (· ≠ ':')
  let colon ← c.take? name
  let behind ← colon.take? ":]".toList
  let set ← namedSet? (String.ofList name)
  return (.named (start.upTo behind) negated set, behind)

def readSetPart (c : Cursor) : Reading (Expression × Cursor) :=
  match c.char? with
  | some '\\' => readEscape c
  | some char => .ok (.literal ⟨c.charSpan, char, false⟩, c.next)
  | none => fail .setUnclosed c.here

def Expression.toSet : Expression → Reading SetExpression
  | .literal l => .ok (.literal l)
  | .set s => .ok s
  | e => fail .escapeInSet e.span

def Expression.toLiteral : Expression → Reading Literal
  | .literal l => .ok l
  | e => fail .rangeEndNotLiteral e.span

/-- A part of a set, or two with a hyphen between them. `unclosed` tells that the text ends. -/
def readSetRange (unclosed : Reading (SetExpression × Cursor)) (c : Cursor) :
    Reading (SetExpression × Cursor) := do
  let (low, c) ← readSetPart c
  let c := c.skip
  if c.atEnd then unclosed
  else if !c.at? '-' || c.peekFar? == some ']' || c.peekFar? == some '-' then
    return (← low.toSet, c)
  else
    let c := c.advance
    if c.atEnd then unclosed
    else
      let (high, c) ← readSetPart c
      let span : Span := ⟨low.span.first, high.span.behind⟩
      let low ← low.toLiteral
      let high ← high.toLiteral
      if high.char < low.char then fail .rangeReversed span
      else return (.range span low high, c)

def setOperator? (c : Cursor) : Option (SetOperation × Cursor) :=
  if let some behind := c.take? "&&".toList then some (.intersection, behind)
  else if let some behind := c.take? "--".toList then some (.difference, behind)
  else if let some behind := c.take? "~~".toList then some (.symmetricDifference, behind)
  else none

inductive SetProgress where
  | reading (inner : OpenSet) (outer : List OpenSet) (c : Cursor)
  | done (s : SetExpression) (c : Cursor)

-- Read one more piece of a set, in the innermost of the open brackets.
def readSetStep (inner : OpenSet) (outer : List OpenSet) (c : Cursor) :
    Reading SetProgress := do
  let c := c.skip
  if c.atEnd then fail .setUnclosed inner.opening
  else if c.at? '[' then
    match readNamedSet? c with
    | some (set, behind) => return .reading (inner.push set) outer behind
    | none =>
      let (opened, behind) ← readSetOpening c
      return .reading opened (inner :: outer) behind
  else if c.at? ']' then
    let behind := c.next
    let set : SetExpression :=
      .bracketed ⟨inner.opening.first, behind.place⟩ inner.negated inner.content
    match outer with
    | [] => return .done set behind
    | next :: rest => return .reading (next.push set) rest behind
  else
    match setOperator? c with
    | some (op, behind) => return .reading (inner.operator op behind) outer behind
    | none =>
      let (part, behind) ← readSetRange (fail .setUnclosed inner.opening) c
      return .reading (inner.push part) outer behind

/-- Read a set up to the bracket that closes the outermost one. Each step reads something. -/
def readSetFrom (inner : OpenSet) (outer : List OpenSet) (c : Cursor) : Reading (Expression × Cursor) :=
  match readSetStep inner outer c with
  | .error f => .error f
  | .ok (.done s behind) => .ok (.set s, behind)
  | .ok (.reading inner outer behind) =>
    if behind.rest.length < c.rest.length then readSetFrom inner outer behind
    else fail .setUnclosed inner.opening
termination_by c.rest.length

def readSet (start : Cursor) : Reading (Expression × Cursor) := do
  let (opened, c) ← readSetOpening start
  readSetFrom opened [] c

end BleBeacon.Pattern
