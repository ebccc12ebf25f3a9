import BleBeacon.Pattern.Basic

/-!
Regular expressions as they are written: trees in which each part knows where it stands, so that
what is wrong with it can be shown.
-/

namespace BleBeacon.Pattern

/-- A place in the text of an expression. Lines and columns count from one. -/
structure Place where
  line : Nat
  column : Nat
deriving DecidableEq, Repr

namespace Place

def start : Place := ⟨1, 1⟩

def behind (p : Place) (c : Char) : Place :=
  if c = '\n' then ⟨p.line + 1, 1⟩ else ⟨p.line, p.column + 1⟩

def before (p q : Place) : Bool := p.line < q.line || (p.line == q.line && p.column < q.column)

end Place

structure Span where
  first : Place
  behind : Place
deriving DecidableEq, Repr

structure Literal where
  span : Span
  char : Char
  -- Whether it is written as a byte, by exactly two hexadecimal digits.
  isByte : Bool
deriving DecidableEq, Repr

inductive LetterClass where
  | digit
  | space
  | word
deriving DecidableEq, Repr

namespace LetterClass

/-- The class that a letter names, and whether it names what is not in the class. -/
def ofLetter? : Char → Option (LetterClass × Bool)
  | 'd' => some (digit, false)
  | 's' => some (space, false)
  | 'w' => some (word, false)
  | 'D' => some (digit, true)
  | 'S' => some (space, true)
  | 'W' => some (word, true)
  | _ => none

def asciiSet : LetterClass → CharSet
  | digit => ⟨[(0x30, 0x39)]⟩
  | space => ⟨[(0x09, 0x0D), (0x20, 0x20)]⟩
  | word => ⟨[(0x30, 0x39), (0x41, 0x5A), (0x5F, 0x5F), (0x61, 0x7A)]⟩

end LetterClass

def namedSet? : String → Option CharSet
  | "alnum" => some ⟨[(0x30, 0x39), (0x41, 0x5A), (0x61, 0x7A)]⟩
  | "alpha" => some ⟨[(0x41, 0x5A), (0x61, 0x7A)]⟩
  | "ascii" => some ⟨[(0x00, 0x7F)]⟩
  | "blank" => some ⟨[(0x09, 0x09), (0x20, 0x20)]⟩
  | "cntrl" => some ⟨[(0x00, 0x1F), (0x7F, 0x7F)]⟩
  | "digit" => some LetterClass.digit.asciiSet
  | "graph" => some ⟨[(0x21, 0x7E)]⟩
  | "lower" => some ⟨[(0x61, 0x7A)]⟩
  | "print" => some ⟨[(0x20, 0x7E)]⟩
  | "punct" => some ⟨[(0x21, 0x2F), (0x3A, 0x40), (0x5B, 0x60), (0x7B, 0x7E)]⟩
  | "space" => some LetterClass.space.asciiSet
  | "upper" => some ⟨[(0x41, 0x5A)]⟩
  | "word" => some LetterClass.word.asciiSet
  | "xdigit" => some ⟨[(0x30, 0x39), (0x41, 0x46), (0x61, 0x66)]⟩
  | _ => none

structure Property where
  name : String
  -- Whether a value of the property is given.
  hasValue : Bool
deriving DecidableEq, Repr

inductive SetOperation where
  | intersection
  | difference
  | symmetricDifference
deriving DecidableEq, Repr

inductive SetExpression where
  | empty (span : Span)
  | literal (l : Literal)
  | range (span : Span) (low high : Literal)
  | named (span : Span) (negated : Bool) (set : CharSet)
  | lettered (span : Span) (negated : Bool) (kind : LetterClass)
  | property (span : Span) (negated : Bool) (p : Property)
  | bracketed (span : Span) (negated : Bool) (inner : SetExpression)
  | union (span : Span) (parts : List SetExpression)
  | operation (span : Span) (op : SetOperation) (left right : SetExpression)

def SetExpression.span : SetExpression → Span
  | empty s | range s _ _ | named s _ _ | lettered s _ _ | property s _ _ | bracketed s _ _
  | union s _ | operation s _ _ _ => s
  | literal l => l.span

inductive Flag where
  | ignoreCase
  -- Lines have their own start and end.
  | multiLine
  -- A point stands for line feeds too.
  | dotAll
  -- Repetitions take as little as they can; which texts are found does not depend on it.
  | swapGreed
  -- Classes and cases are those of all scripts.
  | unicode
  -- A carriage return ends a line too.
  | crlf
  | verbose
deriving DecidableEq, Repr

abbrev FlagChanges := List (Flag × Bool)

def FlagChanges.state? (changes : FlagChanges) (flag : Flag) : Option Bool :=
  List.lookup flag changes

inductive Assertion where
  | caret
  | dollar
  | plain (l : Look)
deriving DecidableEq, Repr

inductive Expression where
  | empty (span : Span)
  -- Flags for what follows in the group.
  | flags (span : Span) (changes : FlagChanges)
  | literal (l : Literal)
  | dot (span : Span)
  | assertion (span : Span) (kind : Assertion)
  | set (s : SetExpression)
  | repetition (span : Span) (least : Nat) (most : Option Nat) (inner : Expression)
  | group (span : Span) (remembered : Bool) (changes : FlagChanges) (inner : Expression)
  | concatenation (span : Span) (parts : List Expression)
  | alternation (span : Span) (parts : List Expression)

def Expression.span : Expression → Span
  | empty s | flags s _ | dot s | assertion s _ | repetition s _ _ _ | group s _ _ _
  | concatenation s _ | alternation s _ => s
  | literal l => l.span
  | set s => s.span

def nestLimit : Nat := 250

mutual

-- Where the first part of a set stands that lies deeper than `room`.
def SetExpression.tooDeep? (room : Nat) : SetExpression → Option Span
  | .bracketed span _ inner =>
    match room with
    | 0 => some span
    | room + 1 => inner.tooDeep? room
  | .union span parts =>
    match room with
    | 0 => some span
    | room + 1 => SetExpression.anyTooDeep? room parts
  | .operation span _ left right =>
    match room with
    | 0 => some span
    | room + 1 => (left.tooDeep? room).or (right.tooDeep? room)
  | _ => none

-- Where the first part of some sets stands that lies deeper than `room`.
def SetExpression.anyTooDeep? (room : Nat) : List SetExpression → Option Span
  | [] => none
  | part :: rest => (part.tooDeep? room).or (SetExpression.anyTooDeep? room rest)

end

mutual

-- Where the first part of an expression stands that lies deeper than `room`.
def Expression.tooDeep? (room : Nat) : Expression → Option Span
  | .set s => s.tooDeep? room
  | .repetition span _ _ inner | .group span _ _ inner =>
    match room with
    | 0 => some span
    | room + 1 => inner.tooDeep? room
  | .concatenation span parts | .alternation span parts =>
    match room with
    | 0 => some span
    | room + 1 => Expression.anyTooDeep? room parts
  | _ => none

/-- Where the first part of some expressions stands that lies deeper than `room`. -/
def Expression.anyTooDeep? (room : Nat) : List Expression → Option Span
  | [] => none
  | part :: rest => (part.tooDeep? room).or (Expression.anyTooDeep? room rest)

end

end BleBeacon.Pattern
