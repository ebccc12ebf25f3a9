import BleBeacon.CommandLine.Grammar
import BleBeacon.Request
import BleBeacon.Interval

/-!
The values of settings. Each setting has values of its own type, so a text is read once, when it is
given, and what has been read needs no further check.
-/

namespace BleBeacon.CommandLine

def readInteger (low high : Int) (text : String) : Except UsageError Int :=
  match Numeral.integer? low high text.toList with
  | some n => .ok n
  | none => .error .valueRejected

def readUInt16 (text : String) : Except UsageError UInt16 :=
  (readInteger 0 65535 text).map fun n => UInt16.ofNat n.toNat

-- The signed number of eight bits that a text spells.
def readInt8 (text : String) : Except UsageError Int8 :=
  (readInteger (-128) 127 text).map Int8.ofInt

def readChoice {α : Type} (choices : List (String × α)) (text : String) : Except UsageError α :=
  match choices.lookup text with
  | some choice => .ok choice
  | none => .error .invalidValue

def readBool (text : String) : Except UsageError Bool :=
  readChoice [("true", true), ("false", false)] text

def readPath (text : String) : Except UsageError String :=
  if text = "" then .error .invalidValue else .ok text

def accepted {ε α : Type} : Except ε α → Except UsageError α
  | .ok a => .ok a
  | .error _ => .error .valueRejected

namespace Setting

@[reducible] def Value : Setting → Type
  | backend => Backend
  | beacon => Selection
  | throttle => Nat
  | address => DeviceAddress
  | uuid => Uuid
  | txPower => Int8
  | device | major | minor | intervalMin | intervalMax => UInt16
  | leLimited | leGeneral | brEdrSupported | leBrController | leBrHost => Bool
  | firmware => SensorTag.Firmware
  | sensor => SensorTag.Sensor
  | input | measurement | namespaceId | instanceId | url | deviceName | calibration | value =>
    String

def read : (s : Setting) → String → Except UsageError s.Value
  | backend => readChoice [("hci", .hci), ("btsnoop", .btsnoop)]
  | beacon => readChoice [("eddystone", .eddystone), ("ibeacon", .iBeacon), ("all", .all)]
  | throttle => fun text => accepted (Interval.parse text)
  | address => fun text => accepted (DeviceAddress.parse text)
  | uuid => fun text =>
    match Uuid.parse? text with
    | some id => .ok id
    | none => .error .valueRejected
  | txPower => readInt8
  | device | major | minor | intervalMin | intervalMax => readUInt16
  | leLimited | leGeneral | brEdrSupported | leBrController | leBrHost => readBool
  | firmware => readChoice [("cc2541", .cc2541), ("cc2650", .cc2650)]
  | sensor => readChoice (SensorTag.Sensor.all.map fun sensor => (sensor.name, sensor))
  | input => readPath
  | measurement | namespaceId | instanceId | url | deviceName | calibration | value => .ok

end Setting

-- The values that have been given for each setting, in order.
structure Values where
  get : (s : Setting) → List s.Value

namespace Values

def none : Values := ⟨fun _ => []⟩

def add (v : Values) (s : Setting) (more : List s.Value) : Values :=
  ⟨fun t => if h : s = t then v.get t ++ h ▸ more else v.get t⟩

/-- The values with those that some texts spell. There has to be a text, and a setting that is not
repeatable must not have a value yet. -/
def give (v : Values) (s : Setting) (texts : List String) : Except UsageError Values :=
  if texts = [] then .error .invalidValue
  else if !s.repeatable && !(v.get s).isEmpty then .error .repeated
  else return v.add s (← texts.mapM s.read)

-- The value of a setting that was given, if any.
def first? (v : Values) (s : Setting) : Option s.Value := (v.get s).head?

def required (v : Values) (s : Setting) : Except UsageError s.Value :=
  match v.first? s with
  | some value => .ok value
  | .none => .error .missingSetting

end Values

end BleBeacon.CommandLine
