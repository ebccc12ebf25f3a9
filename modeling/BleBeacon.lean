import BleBeacon.AdStructure
import BleBeacon.Address
import BleBeacon.Beacon.Basic
import BleBeacon.Beacon.Batch
import BleBeacon.Beacon.Encode
import BleBeacon.Beacon.Recognition
import BleBeacon.Beacon.Url
import BleBeacon.Bytes
import BleBeacon.Capture.ReadAhead
import BleBeacon.Capture.Reader
import BleBeacon.Capture.Record
import BleBeacon.Capture.Replay
import BleBeacon.CommandLine.Arguments
import BleBeacon.CommandLine.Grammar
import BleBeacon.CommandLine.Invocation
import BleBeacon.CommandLine.Values
import BleBeacon.Decimal
import BleBeacon.DecodeError
import BleBeacon.Effect
import BleBeacon.FileTree
import BleBeacon.Hci.Command
import BleBeacon.Hci.Controller
import BleBeacon.Interval
import BleBeacon.Line.KeyMap
import BleBeacon.Line.Point
import BleBeacon.Log.Basic
import BleBeacon.Log.Filter
import BleBeacon.Main
import BleBeacon.Observation
import BleBeacon.Pattern.Basic
import BleBeacon.Pattern.Compile
import BleBeacon.Pattern.Cursor
import BleBeacon.Pattern.Expression
import BleBeacon.Pattern.Fault
import BleBeacon.Pattern.Meaning
import BleBeacon.Pattern.Reader
import BleBeacon.Pattern.Reader.Escape
import BleBeacon.Pattern.Reader.Group
import BleBeacon.Pattern.Reader.Set
import BleBeacon.Process
import BleBeacon.Program
import BleBeacon.Report
import BleBeacon.Request
import BleBeacon.Scan
import BleBeacon.SensorTag.Basic
import BleBeacon.SensorTag.Decode
import BleBeacon.SensorTag.Line
import BleBeacon.SensorTag.Reading
import BleBeacon.SensorTag.Value
import BleBeacon.Source
import BleBeacon.Text.Alphabetic
import BleBeacon.Text.Basic
import BleBeacon.Text.CharSet
import BleBeacon.Text.Hex
import BleBeacon.Text.LetterCase
import BleBeacon.Throttle
import BleBeacon.Uuid
import BleBeacon.Proofs.AdLayout
import BleBeacon.Proofs.AdStructure
import BleBeacon.Proofs.Address
import BleBeacon.Proofs.Beacon.AdvertisingData
import BleBeacon.Proofs.Beacon.OneFormat
import BleBeacon.Proofs.Beacon.Readings
import BleBeacon.Proofs.Beacon.FirstMatch
import BleBeacon.Proofs.Beacon.Recognition
import BleBeacon.Proofs.Beacon.Resending
import BleBeacon.Proofs.Beacon.RoundTrip
import BleBeacon.Proofs.Beacon.SignificantLength
import BleBeacon.Proofs.Beacon.Url
import BleBeacon.Proofs.Beacon.UrlLength
import BleBeacon.Proofs.Beacon.UrlScheme
import BleBeacon.Proofs.Bytes
import BleBeacon.Proofs.Capture.Framing
import BleBeacon.Proofs.Capture.Records
import BleBeacon.Proofs.Capture.Replay
import BleBeacon.Proofs.Effect
import BleBeacon.Proofs.Observation
import BleBeacon.Proofs.Report.Cursor
import BleBeacon.Proofs.Report.Parsing
import BleBeacon.Proofs.Report.WireFormat
import BleBeacon.Proofs.Scan.Isolation
import BleBeacon.Proofs.Scan.OverTheAir
import BleBeacon.Proofs.Scan.Sightings
import BleBeacon.Proofs.Scan.Unthrottled
import BleBeacon.Proofs.Text.Hex
import BleBeacon.Proofs.Text.Lowercase
import BleBeacon.Proofs.Throttle
import BleBeacon.Proofs.Hci.Receiving
import BleBeacon.Proofs.Scan.Live
import BleBeacon.Proofs.Line.Reading
import BleBeacon.Proofs.Line.Ambiguity
import BleBeacon.Proofs.Line.OneLine
import BleBeacon.Proofs.Line.Received
import BleBeacon.Proofs.Hci.Command
import BleBeacon.Proofs.Beacon.Refusal
import BleBeacon.Proofs.Beacon.Batch
import BleBeacon.Proofs.Throttle.History
import BleBeacon.Proofs.Field
import BleBeacon.Proofs.SensorTag.Outcome
import BleBeacon.Proofs.Text.Blanks
import BleBeacon.Proofs.Text.Spelling
import BleBeacon.Proofs.Text.Numeral
import BleBeacon.Proofs.SensorTag.Spelling
import BleBeacon.Proofs.SensorTag.Printing
import BleBeacon.Proofs.Hci.Plan
import BleBeacon.Proofs.Hci.Sending
import BleBeacon.Proofs.Interval
import BleBeacon.Proofs.Address.Parsing
import BleBeacon.Proofs.SensorTag.Calibration
import BleBeacon.Proofs.Text.Acceptance
