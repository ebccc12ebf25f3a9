import BleBeacon.Pattern.Expression

/-!
What can be wrong with a regular expression, and how it is shown: the expression with marks under
what is wrong, then a sentence. An expression of one line is indented. The lines of a longer one are
numbered and stand between rules, and what goes over several lines is described behind them.
-/

namespace BleBeacon.Pattern

inductive FaultKind where
  | escapeInSet
  | rangeReversed
  | rangeEndNotLiteral
  | setUnclosed
  | numberTooLarge
  | hexEmpty
  | hexNotCharacter
  | hexDigitInvalid
  | escapeAtEnd
  | escapeUnknown
  | negationDangling
  | flagRepeated
  | negationRepeated
  | flagsUnclosed
  | flagUnknown
  | groupNameRepeated
  | groupNameEmpty
  | groupNameInvalid
  | groupNameUnclosed
  | groupUnclosed
  | groupUnopened
  | nestedTooDeep
  | countReversed
  | countEmpty
  | countUnclosed
  | nothingToRepeat
  | wordEdgeUnclosed
  | wordEdgeUnknown
  | wordEdgeOrCountUnclosed
  | propertyInvalid
  | backreference
  | lookAround
  | notByteSized
  | invalidUtf8
  | propertyUnknown
  | propertyValueUnknown
  | letterClassUnavailable
  | caseUnavailable
deriving DecidableEq, Repr

def FaultKind.message : FaultKind → String
  | escapeInSet => "invalid escape sequence found in character class"
  | rangeReversed => "invalid character class range, the start must be <= the end"
  | rangeEndNotLiteral => "invalid range boundary, must be a literal"
  | setUnclosed => "unclosed character class"
  | numberTooLarge => "decimal literal invalid"
  | hexEmpty => "hexadecimal literal empty"
  | hexNotCharacter => "hexadecimal literal is not a Unicode scalar value"
  | hexDigitInvalid => "invalid hexadecimal digit"
  | escapeAtEnd => "incomplete escape sequence, reached end of pattern prematurely"
  | escapeUnknown => "unrecognized escape sequence"
  | negationDangling => "dangling flag negation operator"
  | flagRepeated => "duplicate flag"
  | negationRepeated => "flag negation operator repeated"
  | flagsUnclosed => "expected flag but got end of regex"
  | flagUnknown => "unrecognized flag"
  | groupNameRepeated => "duplicate capture group name"
  | groupNameEmpty => "empty capture group name"
  | groupNameInvalid => "invalid capture group character"
  | groupNameUnclosed => "unclosed capture group name"
  | groupUnclosed => "unclosed group"
  | groupUnopened => "unopened group"
  | nestedTooDeep =>
    s!"exceed the maximum number of nested parentheses/brackets ({nestLimit})"
  | countReversed => "invalid repetition count range, the start must be <= the end"
  | countEmpty => "repetition quantifier expects a valid decimal"
  | countUnclosed => "unclosed counted repetition"
  | nothingToRepeat => "repetition operator missing expression"
  | wordEdgeUnclosed =>
    "special word boundary assertion is either unclosed or contains an invalid character"
  | wordEdgeUnknown =>
    "unrecognized special word boundary assertion, valid choices are: start, end, start-half or end-half"
  | wordEdgeOrCountUnclosed =>
    "found either the beginning of a special word boundary or a bounded repetition on a \\b with an opening brace, but no closing brace"
  | propertyInvalid => "invalid Unicode character class"
  | backreference => "backreferences are not supported"
  | lookAround => "look-around, including look-ahead and look-behind, is not supported"
  | notByteSized => "Unicode not allowed here"
  | invalidUtf8 => "pattern can match invalid UTF-8"
  | propertyUnknown => "Unicode property not found"
  | propertyValueUnknown => "Unicode property value not found"
  | letterClassUnavailable =>
    "Unicode-aware Perl class not found (make sure the unicode-perl feature is enabled)"
  | caseUnavailable =>
    "Unicode-aware case insensitivity matching is not available (make sure the unicode-case feature is enabled)"

-- Something wrong, where it stands, and what stands against it elsewhere.
structure Fault where
  kind : FaultKind
  span : Span
  other : Option Span
deriving DecidableEq, Repr

namespace Fault

def spans (f : Fault) : List Span :=
  match f.other with
  | none => [f.span]
  | some other =>
    if other.first.before f.span.first then [other, f.span] else [f.span, other]

/-- The marks under a line from column `column` on: one for each character, at least one. -/
def marks (column : Nat) : List Span → String
  | [] => ""
  | s :: rest =>
    let blanks := s.first.column - column
    let width := max 1 (s.behind.column - s.first.column)
    String.ofList (List.replicate blanks ' ' ++ List.replicate width '^')
      ++ marks (column + blanks + width) rest

/-- The lines of a text, without the line feed, or carriage return and line feed, that ends them.
Behind the last line feed there is another line only if it holds something. -/
def linesOf (text : String) : List String :=
  let lines := text.toList.splitOn '\n'
  let ended := lines.dropLast.map fun line =>
    if line.getLast? = some '\r' then line.dropLast else line
  let last := if lines.getLast? = some [] then [] else lines.getLast?.toList
  (ended ++ last).map String.ofList

/-- Lines numbered from `number` on, each behind a margin and with the marks under it. -/
def annotate (spans : List Span) (margin : Nat → String) (number : Nat) : List String → String
  | [] => ""
  | line :: rest =>
    let here := spans.filter fun s => s.first.line = number && s.behind.line = number
    let under :=
      if here.isEmpty then ""
      else String.ofList (List.replicate (margin number).length ' ') ++ marks 1 here ++ "\n"
    margin number ++ line ++ "\n" ++ under ++ annotate spans margin (number + 1) rest

-- The number of a line, filled up in front to a width.
def padNumber (width number : Nat) : String :=
  let digits := toString number
  String.ofList (List.replicate (width - digits.length) ' ') ++ digits

def divider : String := String.ofList (List.replicate 79 '~') ++ "\n"

def spanText (s : Span) : String :=
  s!"on line {s.first.line} (column {s.first.column}) "
    ++ s!"through line {s.behind.line} (column {s.behind.column - 1})"

def render (text : String) (f : Fault) : String :=
  let lines := linesOf text
  let sentence := "error: " ++ f.kind.message
  if text.toList.contains '\n' then
    let width := (toString (text.toList.count '\n' + 1)).length
    let margin (number : Nat) : String := padNumber width number ++ ": "
    let long := f.spans.filter fun s => s.first.line ≠ s.behind.line
    let notes := if long.isEmpty then "" else "\n".intercalate (long.map spanText) ++ "\n"
    "regex parse error:\n" ++ divider ++ annotate f.spans margin 1 lines ++ divider ++ notes
      ++ sentence
  else
    "regex parse error:\n" ++ annotate f.spans (fun _ => "    ") 1 lines ++ sentence

end Fault

end BleBeacon.Pattern
