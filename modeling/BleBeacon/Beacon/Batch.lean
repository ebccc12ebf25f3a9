import BleBeacon.Report
import BleBeacon.Beacon.Recognition
import BleBeacon.Log.Basic

/-!
Decoding the reports of one event for one format. Each report gives a beacon, or is skipped with the
reason, or carries no beacon of the format; one malformed report leaves the others alone.
-/

namespace BleBeacon

structure SkippedReport where
  address : DeviceAddress
  kind : BeaconKind
  error : DecodeError
deriving DecidableEq

namespace SkippedReport

def text (s : SkippedReport) : String := s.address.text ++ ": " ++ s.error.message

def logRecord (s : SkippedReport) : Log.Record :=
  ⟨.debug, .beacon,
    "Skipping " ++ s.kind.name ++ " report from " ++ s.address.text ++ ": " ++ s.error.message⟩

end SkippedReport

inductive Finding where
  | beacon (beacon : Beacon)
  | skipped (report : SkippedReport)
  | nothing
deriving DecidableEq

/-- What a report gives for a format. A beacon gets the address and the strength of its report. -/
def Report.finding (kind : BeaconKind) (r : Report) : Finding :=
  match kind.recognize r.payload with
  | .ok (some b) => .beacon { b with address := some r.address, rssi := some r.rssi }
  | .ok none => .nothing
  | .error e => .skipped ⟨r.address, kind, e⟩

/-- The beacons and the skipped reports of an event, each in the order of the reports. -/
structure Batch where
  beacons : List Beacon
  skipped : List SkippedReport
deriving DecidableEq

namespace Batch

def ofReports (kind : BeaconKind) (reports : List Report) : Batch where
  beacons := reports.filterMap fun r =>
    match r.finding kind with
    | .beacon b => some b
    | _ => none
  skipped := reports.filterMap fun r =>
    match r.finding kind with
    | .skipped s => some s
    | _ => none

-- The batch of an event, with a record for each report that is skipped.
def ofSet (kind : BeaconKind) (set : ReportSet) : Logged Batch :=
  let batch := ofReports kind set.reports
  ⟨batch, batch.skipped.map SkippedReport.logRecord⟩

end Batch

end BleBeacon
