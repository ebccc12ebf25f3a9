import BleBeacon.Pattern.Reader.Group
import BleBeacon.Pattern.Reader.Set

/-!
Reading a regular expression. The groups that are open are kept on a stack, each with what stands in
front of it, so that an expression is read in one pass.
-/

namespace BleBeacon.Pattern

structure Level where
  -- Where the branch starts that is read now.
  start : Place
  -- The parts of that branch, last one first.
  parts : List Expression
  -- Where the branches start that were read before, and those branches, last one first.
  branches : Option (Place × List Expression)

namespace Level

def startingAt (c : Cursor) : Level := ⟨c.place, [], none⟩

def push (l : Level) (part : Expression) : Level := { l with parts := part :: l.parts }

def branch (l : Level) (c : Cursor) : Expression :=
  match l.parts with
  | [] => .empty ⟨l.start, c.place⟩
  | [part] => part
  | parts => .concatenation ⟨l.start, c.place⟩ parts.reverse

-- The branch ends here, and another one starts behind the bar.
def nextBranch (l : Level) (c : Cursor) : Level :=
  let (first, before) := l.branches.getD (l.start, [])
  ⟨c.next.place, [], some (first, l.branch c :: before)⟩

def close (l : Level) (c : Cursor) : Expression :=
  match l.branches with
  | none => l.branch c
  | some (first, before) => .alternation ⟨first, c.place⟩ (l.branch c :: before).reverse

end Level

structure OpenGroup where
  span : Span
  remembered : Bool
  changes : FlagChanges
  -- Whether blanks are left out around the group.
  verboseOutside : Bool
  -- What stands in front of the group.
  outside : Level

structure Progress where
  cursor : Cursor
  level : Level
  groups : List OpenGroup
  -- The names of groups, and where they stand.
  names : List (String × Span)

namespace Progress

def start (text : String) : Progress :=
  let c := Cursor.ofText text
  ⟨c, .startingAt c, [], []⟩

def push (p : Progress) (part : Expression) (behind : Cursor) : Progress :=
  { p with level := p.level.push part, cursor := behind }

def pushPlain (p : Progress) (char : Char) : Progress :=
  p.push (.literal ⟨p.cursor.charSpan, char, false⟩) p.cursor.next

def openGroup (p : Progress) : Reading Progress := do
  let c := p.cursor
  match ← readOpening c with
  | (.flags changes, behind) =>
    let verbose := (changes.state? .verbose).getD c.verbose
    return p.push (.flags (c.upTo behind) changes) { behind with verbose }
  | (.group remembered changes name, behind) =>
    let names ← match name with
      | none => pure p.names
      | some (name, span) =>
        match p.names.lookup name with
        | some other => .error ⟨.groupNameRepeated, span, some other⟩
        | none => pure ((name, span) :: p.names)
    let verbose := (changes.state? .verbose).getD c.verbose
    return {
      cursor := { behind with verbose }
      level := .startingAt behind
      groups := ⟨c.charSpan, remembered, changes, c.verbose, p.level⟩ :: p.groups
      names }

def closeGroup (p : Progress) : Reading Progress :=
  let c := p.cursor
  match p.groups with
  | [] => fail .groupUnopened c.charSpan
  | g :: rest =>
    let behind := c.next
    let group : Expression :=
      .group ⟨g.span.first, behind.place⟩ g.remembered g.changes (p.level.close c)
    .ok { p with
      cursor := { behind with verbose := g.verboseOutside }
      level := g.outside.push group
      groups := rest }

/-- The last part is repeated; `count` reads how often. -/
def repeatLast (p : Progress) (count : Reading ((Nat × Option Nat) × Cursor)) :
    Reading Progress := do
  match p.level.parts with
  | [] | .flags .. :: _ => fail .nothingToRepeat p.cursor.here
  | last :: before =>
    let ((least, most), behind) ← count
    let span : Span := ⟨last.span.first, behind.place⟩
    return { p with
      cursor := behind
      level := { p.level with parts := .repetition span least most last :: before } }

/-- How often a sign repeats. A question mark behind it only asks for as few as can be. -/
def readSign (c : Cursor) (least : Nat) (most : Option Nat) : (Nat × Option Nat) × Cursor :=
  ((least, most), if c.next.at? '?' then c.next.next else c.next)

def step (p : Progress) (char : Char) : Reading Progress := do
  let c := p.cursor
  match char with
  | '(' => p.openGroup
  | ')' => p.closeGroup
  | '|' => return { p with level := p.level.nextBranch c, cursor := c.next }
  | '[' =>
    let (set, behind) ← readSet c
    return p.push set behind
  | '?' => p.repeatLast (.ok (readSign c 0 (some 1)))
  | '*' => p.repeatLast (.ok (readSign c 0 none))
  | '+' => p.repeatLast (.ok (readSign c 1 none))
  | '\x7b' => p.repeatLast (readCount c)
  | '\\' =>
    let (escaped, behind) ← readEscape c
    return p.push escaped behind
  | '.' => return p.push (.dot c.charSpan) c.next
  | '^' => return p.push (.assertion c.charSpan .caret) c.next
  | '$' => return p.push (.assertion c.charSpan .dollar) c.next
  | _ => return p.pushPlain char

def finish (p : Progress) : Reading Expression :=
  match p.groups with
  | [] => .ok (p.level.close p.cursor)
  | g :: _ => fail .groupUnclosed g.span

/-- Read all that is left. Each step reads something. -/
def run (p : Progress) : Reading Expression :=
  let p' := { p with cursor := p.cursor.skip }
  match p'.cursor.char? with
  | none => p'.finish
  | some char =>
    match p'.step char with
    | .error f => .error f
    | .ok q => if q.cursor.rest.length < p.cursor.rest.length then q.run else q.finish
termination_by p.cursor.rest.length

end Progress

def Expression.read (text : String) : Reading Expression := do
  let e ← (Progress.start text).run
  match e.tooDeep? nestLimit with
  | some span => fail .nestedTooDeep span
  | none => return e

end BleBeacon.Pattern
