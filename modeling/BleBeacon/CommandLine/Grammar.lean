import BleBeacon.Text.Basic

/-!
The commands and what each of them takes: settings, which have values, flags, which have none, and
further commands. A setting is given by its name or, if it is positional, by its place.
-/

namespace BleBeacon.CommandLine

inductive UsageError where
  -- A value is missing, or is not one of those that a setting has.
  | invalidValue
  -- A text that does not spell a value.
  | valueRejected
  | unknownArgument
  | unknownCommand
  | missingSetting
  | missingCommand
  -- Something that may be given once is given again.
  | repeated
  | unexpectedValue
  | help
  | version
  -- Nothing is given where a command is needed, so help is shown.
  | nothingGiven
deriving DecidableEq, Repr

/-- The commands. `program` stands for the program itself. -/
inductive Command where
  | program
  | scan
  | encode
  | encodeUid
  | encodeUrl
  | encodeIBeacon
  | sensorTag
  | help
deriving DecidableEq, Repr

inductive Setting where
  | backend
  | device
  | input
  | beacon
  | measurement
  | throttle
  | address
  | namespaceId
  | instanceId
  | url
  | uuid
  | major
  | minor
  | txPower
  | leLimited
  | leGeneral
  | brEdrSupported
  | leBrController
  | leBrHost
  | intervalMin
  | intervalMax
  | firmware
  | deviceName
  | calibration
  | sensor
  | value
deriving DecidableEq, Repr

inductive Flag where
  | verbose
  | advertise
  | help
  | version
deriving DecidableEq, Repr

namespace Setting

-- The name of a setting, which stands behind two hyphens.
def name : Setting → String
  | backend => "backend"
  | device => "device"
  | input => "input"
  | beacon => "beacon"
  | measurement => "measurement"
  | throttle => "throttle"
  | address => "address"
  | namespaceId => "namespace"
  | instanceId => "instance"
  | url => "url"
  | uuid => "uuid"
  | major => "major"
  | minor => "minor"
  | txPower => "tx-power"
  | leLimited => "le-limited"
  | leGeneral => "le-general"
  | brEdrSupported => "br-edr-supported"
  | leBrController => "le-br-controller"
  | leBrHost => "le-br-host"
  | intervalMin => "interval-min"
  | intervalMax => "interval-max"
  | firmware => "firmware"
  | deviceName => "device-name"
  | calibration => "calibration"
  | sensor => "sensor"
  | value => "value"

def repeatable : Setting → Bool
  | address | value => true
  | _ => false

/-- Whether a number with a minus sign in front is a value of the setting and not a row of flags. -/
def takesNegative : Setting → Bool
  | txPower => true
  | _ => false

end Setting

namespace Flag

-- The name of a flag, which stands behind two hyphens.
def name : Flag → String
  | verbose => "verbose"
  | advertise => "advertise"
  | help => "help"
  | version => "version"

-- The letter of a flag, which stands behind one hyphen.
def letter? : Flag → Option Char
  | verbose => some 'v'
  | advertise => none
  | help => some 'h'
  | version => some 'V'

end Flag

namespace Command

def name : Command → String
  | program => "beacon-listener"
  | scan => "scan"
  | encode => "encode"
  | encodeUid => "eddystone-uid"
  | encodeUrl => "eddystone-url"
  | encodeIBeacon => "ibeacon"
  | sensorTag => "sensortag"
  | help => "help"

/-- The commands that can follow a command. One of them has to, if there are any. -/
def children : Command → List Command
  | program => [scan, encode, sensorTag, help]
  | encode => [encodeUid, encodeUrl, encodeIBeacon, help]
  | _ => []

def child? (c : Command) (name : String) : Option Command := c.children.find? (·.name == name)

def encodeSettings : List Setting :=
  [.txPower, .leLimited, .leGeneral, .brEdrSupported, .leBrController, .leBrHost, .device,
    .intervalMin, .intervalMax]

def settings : Command → List Setting
  | scan => [.backend, .device, .input, .beacon, .measurement, .throttle, .address]
  | encodeUid => .namespaceId :: .instanceId :: encodeSettings
  | encodeUrl => .url :: encodeSettings
  | encodeIBeacon => .uuid :: .major :: .minor :: encodeSettings
  | sensorTag => [.firmware, .deviceName, .calibration, .measurement]
  | _ => []

/-- The settings of a command that are given by place. Only the last may be repeatable. -/
def positionals : Command → List Setting
  | sensorTag => [.sensor, .value]
  | _ => []

def flags : Command → List Flag
  | program => [.verbose, .help, .version]
  | encodeUid | encodeUrl | encodeIBeacon => [.verbose, .advertise, .help]
  | _ => [.verbose, .help]

end Command

end BleBeacon.CommandLine
