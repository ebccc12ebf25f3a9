import BleBeacon.CommandLine.Arguments

/-!
Invocations of the program: what a command line asks for, with a value for every setting that was
left out.
-/

namespace BleBeacon.CommandLine

structure Invocation where
  verbose : Bool
  request : Request

namespace Values

def nanosecondsPerMillisecond : Nat := 1000000

def scan (v : Values) (verbose : Bool) : ScanRequest where
  source := {
    backend := (v.first? .backend).getD .hci
    device := (v.first? .device).getD 0
    input := (v.first? .input).getD "-" }
  settings := {
    selection := (v.first? .beacon).getD .all
    measurement := (v.first? .measurement).getD "beacon"
    interval := (v.first? .throttle).map (· * nanosecondsPerMillisecond)
    addresses := v.get .address
    verbose }

-- The advertising interval of a beacon, 100 ms, in units of 0.625 ms.
def standardInterval : UInt16 := 160

def encode (v : Values) (advertise : Bool) (frame : FrameRequest) :
    Except UsageError EncodeRequest := do
  let transmission : Transmission := {
    device := (v.first? .device).getD 0
    intervalMin := (v.first? .intervalMin).getD standardInterval
    intervalMax := (v.first? .intervalMax).getD standardInterval }
  return {
    frame
    txPower := ← v.required .txPower
    overrides := {
      leLimited := v.first? .leLimited
      leGeneral := v.first? .leGeneral
      brEdrSupported := v.first? .brEdrSupported
      leBrController := v.first? .leBrController
      leBrHost := v.first? .leBrHost }
    transmission := if advertise then some transmission else .none }

def sensorTag (v : Values) : Except UsageError SensorTagRequest := do
  let sensor ← v.required .sensor
  let first ← v.required .value
  return {
    sensor
    pieces := first :: (v.get .value).tail
    givenFirmware := v.first? .firmware
    deviceName := v.first? .deviceName
    calibration := v.first? .calibration
    measurement := (v.first? .measurement).getD "sensortag" }

end Values

def Arguments.request (a : Arguments) (verbose : Bool) : Except UsageError Request :=
  let advertise := a.flags.contains .advertise
  match a.command with
  | .scan => .ok (.scan (a.values.scan verbose))
  | .encodeUid => do
    let namespaceId ← a.values.required .namespaceId
    let instanceId ← a.values.required .instanceId
    return .encode (← a.values.encode advertise (.uid namespaceId instanceId))
  | .encodeUrl => do
    return .encode (← a.values.encode advertise (.url (← a.values.required .url)))
  | .encodeIBeacon => do
    let uuid ← a.values.required .uuid
    let major ← a.values.required .major
    let minor ← a.values.required .minor
    return .encode (← a.values.encode advertise (.iBeacon ⟨uuid, major, minor⟩))
  | .sensorTag => do return .sensorTag (← a.values.sensorTag)
  | .program | .encode | .help =>
    .error (if a.flags.isEmpty then .nothingGiven else .missingCommand)

-- What a command line, without the name of the program, asks for.
def Invocation.parse (arguments : List String) : Except UsageError Invocation := do
  let (a, verbose) ← readArguments (.start .program) false arguments
  return { verbose, request := ← a.request verbose }

end BleBeacon.CommandLine
