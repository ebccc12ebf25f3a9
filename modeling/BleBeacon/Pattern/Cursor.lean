import BleBeacon.Pattern.Fault
import BleBeacon.Text.Basic

/-!
A cursor in the text of a regular expression. It can leave out blanks, and comments from a number
sign to the end of the line, in front of what it reads next.
-/

namespace BleBeacon.Pattern

structure Cursor where
  place : Place
  rest : List Char
  -- Whether blanks and comments are left out.
  verbose : Bool

namespace Cursor

def ofText (text : String) : Cursor := ⟨.start, text.toList, false⟩

def atEnd (c : Cursor) : Bool := c.rest.isEmpty

def char? (c : Cursor) : Option Char := c.rest.head?

def at? (c : Cursor) (char : Char) : Bool := c.char? == some char

def next (c : Cursor) : Cursor :=
  match c.rest with
  | [] => c
  | char :: rest => { c with place := c.place.behind char, rest }

/-- Behind blanks and comments; `inComment` if a comment goes on at the start. -/
def skipFrom (inComment : Bool) (place : Place) : List Char → Place × List Char
  | [] => (place, [])
  | char :: rest =>
    if inComment then skipFrom (char ≠ '\n') (place.behind char) rest
    else if isBlank char then skipFrom false (place.behind char) rest
    else if char = '#' then skipFrom true (place.behind char) rest
    else (place, char :: rest)

-- Behind blanks and comments, if they are left out.
def skip (c : Cursor) : Cursor :=
  if c.verbose then
    let (place, rest) := skipFrom false c.place c.rest
    { c with place, rest }
  else c

-- Behind the next character and what is left out behind it.
def advance (c : Cursor) : Cursor := c.next.skip

def upTo (c behind : Cursor) : Span := ⟨c.place, behind.place⟩

def here (c : Cursor) : Span := c.upTo c

def charSpan (c : Cursor) : Span := c.upTo c.next

def take? (c : Cursor) (text : List Char) : Option Cursor :=
  if text.isPrefixOf c.rest then some (text.foldl (fun c _ => c.next) c) else none

def peek? (c : Cursor) : Option Char := c.next.char?

/-- The character behind the next one and behind the blanks there. Of a comment, no more than its
sign is left out. -/
def peekFar? (c : Cursor) : Option Char :=
  if c.verbose then
    match c.next.rest.dropWhile isBlank with
    | '#' :: rest => (rest.dropWhile isBlank).head?
    | rest => rest.head?
  else c.peek?

theorem length_skipFrom_le (inComment : Bool) (place : Place) (cs : List Char) :
    (skipFrom inComment place cs).2.length ≤ cs.length := by
  induction cs generalizing inComment place with
  | nil => simp [skipFrom]
  | cons char rest ih =>
    simp only [skipFrom, List.length_cons]
    split
    · exact Nat.le_succ_of_le (ih _ _)
    · split
      · exact Nat.le_succ_of_le (ih _ _)
      · split
        · exact Nat.le_succ_of_le (ih _ _)
        · simp

theorem length_advance_lt {c : Cursor} (h : c.rest ≠ []) :
    c.advance.rest.length < c.rest.length := by
  obtain ⟨place, rest, verbose⟩ := c
  cases rest with
  | nil => exact absurd rfl h
  | cons char rest =>
    cases verbose with
    | true => exact Nat.lt_succ_of_le (length_skipFrom_le _ _ _)
    | false => exact Nat.lt_succ_self _

/-- The characters that pass a test, up to the first one that does not, with what is left out
between them. -/
def collect (c : Cursor) (test : Char → Bool) : List Char × Cursor :=
  match _h : c.rest with
  | [] => ([], c)
  | char :: _ =>
    if test char then
      let (more, behind) := c.advance.collect test
      (char :: more, behind)
    else ([], c)
termination_by c.rest.length
decreasing_by exact length_advance_lt (by simp [_h])

end Cursor

end BleBeacon.Pattern
