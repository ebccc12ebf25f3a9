import BleBeacon.CommandLine.Values

/-!
Reading arguments one after another. An argument is a command, a flag, a setting with its value or
without, a value, or two hyphens alone, behind which all arguments are taken as they are. A setting
that was given without its value waits for the next argument. What a setting was given is read when
the next argument or the end shows that it is complete, so the first mistake in that sense is the one
that is told.
-/

namespace BleBeacon.CommandLine

structure Arguments where
  command : Command
  flags : List Flag
  values : Values
  -- The setting that was given last, with texts that have not been read yet. Without a text it
  -- waits for one.
  pending : Option (Setting × List String)
  position : Nat
  -- Whether two hyphens have been given.
  escaped : Bool

namespace Arguments

def start (command : Command) : Arguments := ⟨command, [], .none, none, 0, false⟩

def settle (a : Arguments) : Except UsageError Arguments :=
  match a.pending with
  | none => .ok a
  | some (s, texts) => return { a with values := ← a.values.give s texts, pending := none }

def awaiting? (a : Arguments) : Option Setting :=
  match a.pending with
  | some (s, []) => some s
  | _ => none

def takeFlag (a : Arguments) (flag : Flag) : Except UsageError Arguments := do
  let a ← a.settle
  match flag with
  | .help => .error .help
  | .version => .error .version
  | _ => if a.flags.contains flag then .error .repeated else .ok { a with flags := flag :: a.flags }

-- Take a row of letters, each of which is a flag.
def takeLetters (a : Arguments) : List Char → Except UsageError Arguments
  | [] => .ok a
  | c :: rest =>
    match a.command.flags.find? (·.letter? == some c) with
    | none => .error .unknownArgument
    | some flag => do takeLetters (← a.takeFlag flag) rest

/-- Take a flag or a setting by its name, with or without a value behind an equals sign. -/
def takeNamed (a : Arguments) (cs : List Char) : Except UsageError Arguments :=
  let name := String.ofList (cs.takeWhile (· ≠ '='))
  let attached := (cs.dropWhile (· ≠ '=')).tail?.map String.ofList
  match a.command.flags.find? (·.name == name), a.command.settings.find? (·.name == name) with
  | some flag, _ => if attached.isSome then .error .unexpectedValue else a.takeFlag flag
  | none, some s => do
    let a ← a.settle
    match attached with
    | some text => return { a with values := ← a.values.give s [text] }
    | none => return { a with pending := some (s, []) }
  | none, none => .error .unknownArgument

/-- Take the first text of a place. A repeatable setting keeps its place. -/
def occupy (a : Arguments) (s : Setting) (text : String) : Arguments :=
  { a with
    pending := some (s, [text])
    position := if s.repeatable then a.position else a.position + 1 }

def takePlace (a : Arguments) (text : String) : Except UsageError Arguments :=
  match a.command.positionals[a.position]?, a.pending with
  | some s, some (p, texts) =>
    if p = s ∧ s.repeatable then .ok { a with pending := some (s, texts ++ [text]) }
    else do return (← a.settle).occupy s text
  | some s, none => .ok (a.occupy s text)
  | none, _ =>
    if a.command.children.isEmpty ∨ (a.escaped ∧ (a.command.child? text).isSome) then
      .error .unknownArgument
    else .error .unknownCommand

/-- Take an argument that starts with no hyphen or is to be taken as it is: the text that a setting
waits for, or else an argument by its place. -/
def takeText (a : Arguments) (text : String) : Except UsageError Arguments :=
  match a.awaiting? with
  | some s => .ok { a with pending := some (s, [text]) }
  | none => a.takePlace text

/-- Whether characters continue an unsigned number. The flags tell whether they stand at its start,
behind a point and behind an `e`. -/
def continuesNumber (first point exponent : Bool) : List Char → Bool
  | [] => true
  | c :: rest =>
    if c.isDigit then continuesNumber false point exponent rest
    else if c == '.' then
      !first && !point && !exponent && continuesNumber false true exponent rest
    else if c == 'e' || c == 'E' then
      !first && !exponent && !rest.isEmpty && continuesNumber false point true rest
    else false

/-- Whether characters form an unsigned number: digits, with at most one point, which is not first
and stands before the exponent, and at most one `e`, which is neither first nor last. -/
def isNumber (cs : List Char) : Bool := continuesNumber true false false cs

def take (a : Arguments) (text : String) : Except UsageError Arguments :=
  if a.escaped then a.takePlace text
  else
    match text.toList with
    | ['-', '-'] => .ok { a with escaped := true }
    | '-' :: '-' :: name => a.takeNamed name
    | '-' :: c :: letters =>
      if a.awaiting?.any (·.takesNegative) && isNumber (c :: letters) then a.takeText text
      else a.takeLetters (c :: letters)
    | _ => a.takeText text

def command? (a : Arguments) (text : String) : Option Command :=
  if a.escaped then none else a.command.child? text

end Arguments

def helpOn (command : Command) : List String → UsageError
  | [] => .help
  | text :: rest =>
    match command.child? text with
    | some child => helpOn child rest
    | none => .unknownCommand

/-- Read all arguments. The result holds the arguments of the last command, and whether `verbose`
was given to any. -/
def readArguments (a : Arguments) (verbose : Bool) :
    List String → Except UsageError (Arguments × Bool)
  | [] => do
    let a ← a.settle
    return (a, verbose || a.flags.contains .verbose)
  | text :: rest =>
    match a.command? text with
    | some .help => .error (helpOn a.command rest)
    | some child => readArguments (.start child) (verbose || a.flags.contains .verbose) rest
    | none => do readArguments (← a.take text) verbose rest

end BleBeacon.CommandLine
