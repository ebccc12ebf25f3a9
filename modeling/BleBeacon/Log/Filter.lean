import BleBeacon.Log.Basic
import BleBeacon.Pattern.Compile

/-!
Filters of log records. A filter is a list of directives, each of which says how important the
records of some targets have to be; the directive with the longest name that a target starts with
decides. A filter can ask besides that a pattern occurs in messages.

As a text a filter is a list of directives with commas between them, and perhaps a slash and the
pattern, which is a regular expression. A directive is a level, a name, or a name, an equals sign and
a level.
-/

namespace BleBeacon.Log

-- The records that pass: those at least as important as a level, or none.
abbrev Threshold := Option Level

def Level.passes (level : Level) (threshold : Threshold) : Bool :=
  threshold.any (level.rank ≤ ·.rank)

-- The threshold that a text names, in ASCII letters of either case.
def threshold? (cs : List Char) : Option Threshold :=
  let text := String.ofList (cs.map Char.toUpper)
  if text = "OFF" then some none
  else ([.error, .warn, .info, .debug, .trace].find? fun level : Level => level.name == text).map some

/-- What decides for the targets that start with a name; without one, for all targets. -/
structure Directive where
  name : Option String
  threshold : Threshold
deriving DecidableEq, Repr

namespace Directive

def nameLength (d : Directive) : Nat := (d.name.map fun name => utf8Length name.toList).getD 0

def covers (d : Directive) (target : String) : Bool :=
  d.name.all fun name => name.toList.isPrefixOf target.toList

-- The directive that a text spells, or the part of the text that is wrong.
def parse (cs : List Char) : Except String Directive :=
  match cs.splitOn '=' with
  | [name] =>
    match threshold? name with
    | some threshold => .ok ⟨none, threshold⟩
    | none => .ok ⟨some (String.ofList name), some .trace⟩
  | [name, level] =>
    let level := trim level
    if level = [] then .ok ⟨some (String.ofList name), some .trace⟩
    else
      match threshold? level with
      | some threshold => .ok ⟨some (String.ofList name), threshold⟩
      | none => .error (String.ofList level)
  | _ => .error (String.ofList cs)

end Directive

structure Filter where
  directives : List Directive
  -- What must occur in messages.
  pattern : Option Pattern
deriving DecidableEq, Repr

namespace Filter

/-- The one of two directives that has the longer name, the later one if both are as long. -/
def longer (best : Option Directive) (d : Directive) : Option Directive :=
  match best with
  | some b => if b.nameLength ≤ d.nameLength then some d else some b
  | none => some d

/-- The threshold for a target: that of the directive with the longest name among those about it. -/
def threshold (f : Filter) (target : String) : Threshold :=
  ((f.directives.filter (·.covers target)).foldl longer none).bind (·.threshold)

def passes (f : Filter) (r : Record) : Bool :=
  r.level.passes (f.threshold r.component.target)
    && f.pattern.all (·.occursIn r.message.toList)

/-- The directives with one more, which takes the place of the one with its name. -/
def insert (ds : List Directive) (d : Directive) : List Directive :=
  if ds.any (·.name = d.name) then ds.map fun other => if other.name = d.name then d else other
  else ds ++ [d]

/-- A filter of directives; of none, the filter that errors pass. -/
def ofDirectives (ds : List Directive) (pattern : Option Pattern) : Filter :=
  let ds := ds.foldl insert []
  ⟨if ds.isEmpty then [⟨none, some .error⟩] else ds, pattern⟩

-- What is said about a text that is no directive.
def warning (text : String) : String := "warning: invalid logging spec '" ++ text ++ "', ignoring it"

def patternWarning (e : Pattern.CompileError) : String :=
  "warning: invalid regex filter - " ++ e.message

-- The directives that a list spells, and what is said about its mistakes.
def parseDirectives (list : List Char) : List Directive × List String :=
  let parsed := ((list.splitOn ',').map trim).filter (· ≠ []) |>.map Directive.parse
  (parsed.filterMap fun | .ok d => some d | .error _ => none,
    parsed.filterMap fun | .ok _ => none | .error e => some (warning e))

-- The filter that a text spells, and what is said about its mistakes.
def parse (text : String) : Filter × List String :=
  match text.toList.splitOn '/' with
  | [] => (ofDirectives [] none, [])
  | [list] =>
    let (ds, warnings) := parseDirectives list
    (ofDirectives ds none, warnings)
  | [list, pattern] =>
    let (ds, warnings) := parseDirectives list
    match Pattern.compile (String.ofList pattern) with
    | .ok p => (ofDirectives ds (some p), warnings)
    | .error e => (ofDirectives ds none, warnings ++ [patternWarning e])
  | _ => (ofDirectives [] none, [warning text ++ " (too many '/'s)"])

def standard (verbose : Bool) : Filter :=
  ⟨[⟨none, some (if verbose then .debug else .warn)⟩], none⟩

end Filter

/-- The line of a record: time, level and target in brackets, then the message. Further lines of the
message are indented. -/
def Record.text (time : String) (r : Record) : String :=
  let level := r.level.name ++ String.ofList (List.replicate (5 - r.level.name.length) ' ')
  let message := r.message.toList.flatMap fun c =>
    if c = '\n' then "\n    ".toList else [c]
  "[" ++ time ++ " " ++ level ++ " " ++ r.component.target ++ "] " ++ String.ofList message

end BleBeacon.Log
