import BleBeacon.Process
import Std.Time

/-!
The command line program. It reads the arguments, the filter of the log, the clock and the capture,
and leaves the rest to `runProcess`. There is no access to controllers from here.
-/

namespace BleBeacon

-- The number of an error of the kernel, and the kernel's text for it.
def systemError? : IO.Error → Option (Nat × String)
  | .alreadyExists _ n text | .otherError n text | .resourceBusy n text | .resourceVanished n text
  | .unsupportedOperation n text | .hardwareFault n text | .unsatisfiedConstraints n text
  | .illegalOperation n text | .protocolError n text | .timeExpired n text
  | .interrupted _ n text | .noFileOrDirectory _ n text | .invalidArgument _ n text
  | .permissionDenied _ n text | .resourceExhausted _ n text | .inappropriateType _ n text
  | .noSuchThing _ n text => some (n.toNat, text)
  | .unexpectedEof | .userError _ => none

def readStandardInput : IO ByteArray := do
  let stdin ← IO.getStdin
  let mut bytes := ByteArray.empty
  repeat
    let more ← stdin.read 65536
    if more.isEmpty then break
    bytes := bytes ++ more
  return bytes

def readCapture (input : String) : IO Opening := do
  try
    let bytes ← if FileTree.isStandardInput input then readStandardInput
      else IO.FS.readBinFile input
    return .ofCapture input (.ofBytes bytes.toList)
  catch e =>
    return match systemError? e with
      | some (errno, text) => .ofFile (fun _ => text) input (.error errno)
      | none => .failed (.io (toString e))

def openSource (arguments : List String) : IO Opening :=
  match CommandLine.Invocation.parse arguments with
  | .ok ⟨_, .scan request⟩ =>
    match request.source.backend with
    | .hci => return .failed (.backendUnavailable Backend.hci.name)
    | .btsnoop => readCapture request.source.input
  | _ => return .ofPackets []

end BleBeacon

open BleBeacon in
def main (arguments : List String) : IO UInt32 := do
  let opening ← openSource arguments
  let now ← Std.Time.Timestamp.now
  let surroundings : Surroundings := {
    source := fun _ => opening
    kernel := .failingAt (fun _ => "Address family not supported by protocol")
      (some (.socket, 0, 97))
    times := fun _ => (now.toNanosecondsSinceUnixEpoch.toInt, 0) }
  let time := (Std.Time.DateTime.ofTimestampWithZone now .UTC).format "uuuu-MM-dd'T'HH:mm:ss'Z'"
  let outcome := runProcess surroundings (← IO.getEnv "RUST_LOG") time arguments
  (← IO.getStdout).putStr outcome.out
  (← IO.getStderr).putStr outcome.err
  return UInt32.ofNat outcome.code
