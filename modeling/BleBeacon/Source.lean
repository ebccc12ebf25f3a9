import BleBeacon.Text.LetterCase

/-!
Where packets come from, and how a source fails.
-/

namespace BleBeacon

inductive Backend where
  -- A controller, through raw sockets of the kernel.
  | hci
  | btsnoop
deriving DecidableEq, Repr

namespace Backend

def name : Backend → String
  | hci => "hci"
  | btsnoop => "btsnoop"

/-- The source that a text names, in letters of either case, by its name or by its short name. -/
def parse (text : String) : Except String Backend :=
  let lower := lowercase text
  if lower = "hci" ∨ lower = "raw" then .ok .hci
  else if lower = "btsnoop" ∨ lower = "snoop" then .ok .btsnoop
  else .error ("Unknown backend: " ++ text)

end Backend

structure SourceConfig where
  backend : Backend
  device : UInt16
  -- The path of the capture, or a hyphen for standard input.
  input : String
deriving DecidableEq, Repr

inductive ScanError where
  | bluetooth (reason : String)
  | io (reason : String)
  | invalidCapture (reason : String)
  -- A source that this program was built without.
  | backendUnavailable (name : String)
deriving DecidableEq, Repr

def ScanError.message : ScanError → String
  | bluetooth reason => "Bluetooth error: " ++ reason
  | io reason => "I/O error: " ++ reason
  | invalidCapture reason => "Invalid btsnoop capture: " ++ reason
  | backendUnavailable name => "Backend '" ++ name ++ "' not available (not compiled in)"

/-- How the kernel's errors are told: its own text for the number, and the number. -/
def osError (errorText : Nat → String) (errno : Nat) : String :=
  errorText errno ++ s!" (os error {errno})"

end BleBeacon
