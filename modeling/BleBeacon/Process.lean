import BleBeacon.Program
import BleBeacon.Log.Filter
import BleBeacon.CommandLine.Invocation

/-!
The program as a process: what it writes to its two streams and the code it exits with, from its
arguments and the filter of its log.
-/

namespace BleBeacon

structure Outcome where
  code : Nat
  out : String
  err : String
deriving DecidableEq, Repr

namespace Outcome

def success : Nat := 0

def failure : Nat := 1

def misuse : Nat := 2

def versionText : String := "beacon-listener 0.1.0"

def helpText : String :=
  "Usage: beacon-listener [-v] <scan|encode|sensortag|help> [OPTIONS]"

end Outcome

def CommandLine.UsageError.message : CommandLine.UsageError → String
  | invalidValue => "invalid value"
  | valueRejected => "value cannot be read"
  | unknownArgument => "unexpected argument"
  | unknownCommand => "unrecognized subcommand"
  | missingSetting => "required arguments were not provided"
  | missingCommand => "a subcommand is required"
  | repeated => "an argument cannot be used multiple times"
  | unexpectedValue => "unexpected value"
  | help | nothingGiven => Outcome.helpText
  | version => Outcome.versionText

-- The outcome of a command line that is not carried out.
def CommandLine.UsageError.outcome (e : CommandLine.UsageError) : Outcome :=
  match e with
  | .help | .version => ⟨Outcome.success, e.message ++ "\n", ""⟩
  | .nothingGiven => ⟨Outcome.misuse, "", e.message ++ "\n"⟩
  | _ => ⟨Outcome.misuse, "", "error: " ++ e.message ++ "\n\n" ++ Outcome.helpText ++ "\n"⟩

-- What an effect writes to the error stream, where the log goes too.
def Effect.errorText (filter : Log.Filter) (time : String) : Effect → String
  | .write .err text => text
  | .log record => if filter.passes record then record.text time ++ "\n" else ""
  | _ => ""

def Run.outcome (r : Run) (filter : Log.Filter) (time : String) : Outcome :=
  let out := Effect.written .out r.effects
  let err := String.join (r.effects.map (·.errorText filter time))
  match r.result with
  | .ok () => ⟨Outcome.success, out, err⟩
  | .error e => ⟨Outcome.failure, out, err ++ "error: " ++ e.message ++ "\n"⟩

/-- Run the program. `time` stands for the time in log lines. -/
def runProcess (s : Surroundings) (filterText : Option String) (time : String)
    (arguments : List String) : Outcome :=
  match CommandLine.Invocation.parse arguments with
  | .error e => e.outcome
  | .ok invocation =>
    let (filter, warnings) :=
      match filterText with
      | some text => Log.Filter.parse text
      | none => (.standard invocation.verbose, [])
    let outcome := (invocation.request.run s).outcome filter time
    { outcome with err := String.join (warnings.map (· ++ "\n")) ++ outcome.err }

end BleBeacon
