import Mathlib
import BleBeacon.Proofs.Effect

/-!
# Scans without a throttle

Without a throttle nothing is remembered from one packet to the next.  What a scan writes is said
here report by report, and the loop is shown to write that and nothing else.
-/

namespace BleBeacon

/-- Devices that a scan is asked to report. -/
def ScanSettings.Wants (s : ScanSettings) (a : DeviceAddress) : Prop :=
  s.addresses = [] ∨ a ∈ s.addresses

instance (s : ScanSettings) (a : DeviceAddress) : Decidable (s.Wants a) :=
  inferInstanceAs (Decidable (s.addresses = [] ∨ a ∈ s.addresses))

theorem ScanSettings.accepts_eq (s : ScanSettings) (a : DeviceAddress) :
    s.accepts a = decide (s.Wants a) := by
  rw [ScanSettings.accepts, Bool.eq_iff_iff, Bool.or_eq_true, List.isEmpty_iff,
    List.contains_iff_mem, decide_eq_true_iff, ScanSettings.Wants]

/-- Selections that a format belongs to. -/
def Selection.Covers : Selection → BeaconKind → Prop
  | all, _ => True
  | eddystone, kind => kind = .eddystone
  | iBeacon, kind => kind = .iBeacon

instance (selection : Selection) (kind : BeaconKind) : Decidable (selection.Covers kind) :=
  match selection with
  | .all => isTrue trivial
  | .eddystone => inferInstanceAs (Decidable (kind = .eddystone))
  | .iBeacon => inferInstanceAs (Decidable (kind = .iBeacon))

theorem Selection.kinds_eq (selection : Selection) :
    selection.kinds = [BeaconKind.eddystone, .iBeacon].filter (selection.Covers ·) := by
  cases selection <;> rfl

namespace Scan

/-! ## What is to be written -/

/-- The line of a report that is wanted and carries a beacon of a format. -/
def reportLine? (s : ScanSettings) (time : Int) (kind : BeaconKind) (r : Report) : Option String :=
  if s.Wants r.address then
    match kind.recognize r.payload with
    | .ok (some b) =>
      some (Observation.line s.measurement
        ⟨{ b with address := some r.address, rssi := some r.rssi }, time⟩)
    | _ => none
  else none

/-- What is wrong with a report that is wanted. -/
def reportComplaint? (s : ScanSettings) (kind : BeaconKind) (r : Report) : Option String :=
  if s.Wants r.address then
    match kind.recognize r.payload with
    | .error e => some (r.address.text ++ ": " ++ e.message)
    | _ => none
  else none

def eventLines (s : ScanSettings) (event : ScanEvent) : List String :=
  match parseReports event.packet with
  | .ok (some set) =>
    ([BeaconKind.eddystone, .iBeacon].filter (s.selection.Covers ·)).flatMap fun kind ↦
      set.reports.filterMap (reportLine? s event.time kind)
  | _ => []

def eventComplaints (s : ScanSettings) (event : ScanEvent) : List String :=
  match parseReports event.packet with
  | .error e => [e.message]
  | .ok none => []
  | .ok (some set) =>
    ([BeaconKind.eddystone, .iBeacon].filter (s.selection.Covers ·)).flatMap fun kind ↦
      set.reports.filterMap (reportComplaint? s kind)

/-- The lines that an event adds to a stream. -/
def linesOn (s : ScanSettings) (stream : StreamName) (event : ScanEvent) : List String :=
  match stream with
  | .out => eventLines s event
  | .err => if s.verbose then eventComplaints s event else []

-- Verbosity is the same for all that is told, so it can be asked once.
theorem flatMap_told {α : Type} (s : ScanSettings) (xs : List α) (f : α → List String) :
    (xs.flatMap fun x ↦ if s.verbose then f x else []) =
      if s.verbose then xs.flatMap f else [] := by
  by_cases hverbose : s.verbose
  · simp only [if_pos hverbose]
  · simp only [if_neg hverbose]
    exact List.flatMap_eq_nil_iff.mpr fun _ _ ↦ rfl

/-! ## One format -/

variable (s : ScanSettings) (event : ScanEvent) (kind : BeaconKind)

theorem emit_cons (b : Beacon) (a : DeviceAddress) (haddress : b.address = some a)
    (rest : List Beacon) {effects : List Effect}
    (hrest : emit s event none rest = (effects, none)) :
    emit s event none (b :: rest) =
      (if s.Wants a then
        Effect.line .out (Observation.line s.measurement ⟨b, event.time⟩) ++ effects
      else effects, none) := by
  have hany : b.address.any (!s.accepts ·) = !decide (s.Wants a) := by
    rw [haddress, Option.any_some, ScanSettings.accepts_eq]
  rw [emit, hany]
  by_cases hwants : s.Wants a
  · rw [if_neg (by simp [hwants]), if_pos hwants, admits]
    simp only [hrest]
    rfl
  · rw [if_pos (by simp [hwants]), if_neg hwants, hrest]

-- Every beacon of a batch has the address of its report, so the filter looks at that.
theorem emit_ofReports (reports : List Report) :
    emit s event none (Batch.ofReports kind reports).beacons =
      ((reports.filterMap (reportLine? s event.time kind)).flatMap (Effect.line .out), none) := by
  induction reports with
  | nil => rfl
  | cons r rest ih =>
    rw [Batch.ofReports] at ih ⊢
    simp only [List.filterMap_cons] at ih ⊢
    rw [Report.finding, reportLine?]
    cases hrecognize : kind.recognize r.payload with
    | error e =>
      simp only [ite_self]
      exact ih
    | ok found =>
      cases found with
      | none =>
        simp only [ite_self]
        exact ih
      | some b =>
        refine (emit_cons s event _ r.address rfl _ ih).trans ?_
        by_cases hwants : s.Wants r.address
        · rw [if_pos hwants, if_pos hwants]
          rfl
        · rw [if_neg hwants, if_neg hwants]

theorem skipped_ofReports (reports : List Report) :
    (((Batch.ofReports kind reports).skipped.filter fun r ↦ s.accepts r.address).flatMap
        fun r ↦ report s r.text) =
      (reports.filterMap (reportComplaint? s kind)).flatMap (report s) := by
  induction reports with
  | nil => rfl
  | cons r rest ih =>
    rw [Batch.ofReports] at ih ⊢
    simp only [List.filterMap_cons] at ih ⊢
    rw [Report.finding, reportComplaint?]
    cases hrecognize : kind.recognize r.payload with
    | ok found =>
      simp only [ite_self]
      cases found <;> exact ih
    | error e =>
      simp only [List.filter_cons, ScanSettings.accepts_eq, decide_eq_true_eq] at ih ⊢
      by_cases hwants : s.Wants r.address
      · rw [if_pos hwants, if_pos hwants, List.flatMap_cons, List.flatMap_cons, ih]
        rfl
      · rw [if_neg hwants, if_neg hwants, ih]

theorem written_flatMap_report (stream : StreamName) (complaints : List String) :
    Effect.written stream (complaints.flatMap (report s)) =
      if stream = .err ∧ s.verbose then Effect.text complaints else "" := by
  by_cases hverbose : s.verbose
  · have hreport : report s = Effect.line .err := by
      ext1 text
      rw [report, if_pos hverbose]
    rw [hreport]
    cases stream with
    | out => exact Effect.written_flatMap_line_of_ne (by decide) complaints
    | err => rw [if_pos ⟨rfl, hverbose⟩, Effect.written_flatMap_line]
  · have hreport : report s = fun _ ↦ [] := by
      ext1 text
      rw [report, if_neg hverbose]
    rw [hreport, if_neg fun h ↦ hverbose h.2, List.flatMap_eq_nil_iff.mpr fun _ _ ↦ rfl]
    rfl

/-- The lines that the reports of an event add to a stream for one format. -/
def kindLinesOn (s : ScanSettings) (stream : StreamName) (time : Int) (reports : List Report)
    (kind : BeaconKind) : List String :=
  match stream with
  | .out => reports.filterMap (reportLine? s time kind)
  | .err => if s.verbose then reports.filterMap (reportComplaint? s kind) else []

theorem handleKind_unthrottled (set : ReportSet) (stream : StreamName) :
    (handleKind s event set none kind).2 = none ∧
      Effect.written stream (handleKind s event set none kind).1 =
        Effect.text (kindLinesOn s stream event.time set.reports kind) := by
  rw [handleKind, Batch.ofSet]
  simp only [emit_ofReports, skipped_ofReports]
  refine ⟨trivial, ?_⟩
  rw [Effect.written_append, Effect.written_append, Effect.written_map_log,
    written_flatMap_report, kindLinesOn.eq_def]
  cases stream with
  | out =>
    rw [if_neg (by simp), Effect.written_flatMap_line]
    rfl
  | err =>
    rw [Effect.written_flatMap_line_of_ne (by decide)]
    by_cases hverbose : s.verbose
    · simp [hverbose]
    · simp [hverbose]

/-! ## Whole scans -/

theorem handleKinds_unthrottled (set : ReportSet) (stream : StreamName) (kinds : List BeaconKind) :
    (handleKinds s event set none kinds).2 = none ∧
      Effect.written stream (handleKinds s event set none kinds).1 =
        Effect.text (kinds.flatMap (kindLinesOn s stream event.time set.reports)) := by
  induction kinds with
  | nil => exact ⟨rfl, rfl⟩
  | cons kind rest ih =>
    have hfirst := handleKind_unthrottled s event kind set stream
    rw [handleKinds]
    simp only [hfirst.1]
    refine ⟨ih.1, ?_⟩
    rw [Effect.written_append, hfirst.2, ih.2, List.flatMap_cons, Effect.text_append]

theorem handle_unthrottled (stream : StreamName) :
    (handle s none event).2 = none ∧
      Effect.written stream (handle s none event).1 = Effect.text (linesOn s stream event) := by
  rw [handle, linesOn.eq_def, eventLines, eventComplaints]
  cases hparse : parseReports event.packet with
  | error e =>
    refine ⟨rfl, ?_⟩
    have hreport := written_flatMap_report s stream [e.message]
    rw [List.flatMap_singleton] at hreport
    refine Eq.trans ?_ (hreport.trans ?_)
    · rfl
    · cases stream with
      | out => rfl
      | err => by_cases hverbose : s.verbose <;> simp [hverbose]
  | ok found =>
    cases found with
    | none => cases stream <;> simp
    | some set =>
      have hkinds := handleKinds_unthrottled s event set stream s.selection.kinds
      refine ⟨hkinds.1, hkinds.2.trans ?_⟩
      rw [Selection.kinds_eq]
      cases stream with
      | out => rfl
      | err =>
        have hlines : kindLinesOn s .err event.time set.reports = fun kind ↦
          if s.verbose then set.reports.filterMap (reportComplaint? s kind) else [] := rfl
        rw [hlines, flatMap_told]

theorem written_loop_unthrottled (stream : StreamName) (events : List ScanEvent) :
    Effect.written stream (loop s none events).flatten =
      Effect.text (events.flatMap (linesOn s stream)) := by
  induction events with
  | nil => rfl
  | cons event rest ih =>
    have hevent := handle_unthrottled s event stream
    rw [loop]
    simp only [hevent.1]
    rw [List.flatten_cons, Effect.written_append, hevent.2, ih, List.flatMap_cons,
      Effect.text_append]

theorem written_run_unthrottled (hinterval : s.interval = none) (stream : StreamName)
    (events : List ScanEvent) :
    Effect.written stream (run s events) = Effect.text (events.flatMap (linesOn s stream)) := by
  have hthrottle : s.throttle = none := by rw [ScanSettings.throttle, hinterval, Option.map_none]
  rw [run, steps, hthrottle]
  exact written_loop_unthrottled s stream events

/-- Packets without a beacon of any format in any report, malformed and foreign ones among them. -/
def Beaconless (packet : Bytes) : Prop :=
  ∀ set, parseReports packet = .ok (some set) →
    ∀ r ∈ set.reports, ∀ kind b, BeaconKind.recognize kind r.payload ≠ .ok (some b)

theorem eventLines_beaconless (h : Beaconless event.packet) : eventLines s event = [] := by
  rw [eventLines]
  split
  · rename_i set hset
    rw [List.flatMap_eq_nil_iff]
    intro kind _
    rw [List.filterMap_eq_nil_iff]
    intro r hr
    rw [reportLine?]
    split
    · split
      · rename_i b hb
        exact absurd hb (h set hset r hr kind b)
      · rfl
    · rfl
  · rfl

end Scan

/-- A scan without a throttle handles every packet and ends well.  It writes a line for each wanted
report with a beacon, by packet, then by format, then by report, and tells what is malformed in the
same order if that is asked for.  So telling it does not change the lines, scans can be joined, and
packets without beacons make no difference to the lines. -/
theorem scan_unthrottled (s : ScanSettings) (hinterval : s.interval = none) :
    (∀ events, (Scan.steps s events).length = events.length ∧
      Effect.written .out (Scan.run s events) =
        Effect.text (events.flatMap (Scan.eventLines s)) ∧
      Effect.written .err (Scan.run s events) =
        if s.verbose then Effect.text (events.flatMap (Scan.eventComplaints s)) else "") ∧
    (∀ (r : ScanRequest) (w : Surroundings) packets reason, r.settings = s →
      (w.source r.source).result = .ok packets →
      (w.events 0 packets).map ScanEvent.packet = packets ∧
      ((r.run w).limited ⟨none, none, reason⟩).result = .ok () ∧
      ∀ stream, Effect.written stream ((r.run w).limited ⟨none, none, reason⟩).effects =
        Effect.written stream (w.source r.source).effects ++
          Effect.written stream (Scan.run s (w.events 0 packets))) ∧
    (∀ verbose events, Effect.written .out (Scan.run { s with verbose } events) =
      Effect.written .out (Scan.run s events)) ∧
    (∀ stream xs ys, Effect.written stream (Scan.run s (xs ++ ys)) =
      Effect.written stream (Scan.run s xs) ++ Effect.written stream (Scan.run s ys)) ∧
    (∀ xs event ys, Scan.Beaconless event.packet →
      Effect.written .out (Scan.run s (xs ++ event :: ys)) =
        Effect.written .out (Scan.run s (xs ++ ys))) := by
  have hwritten := Scan.written_run_unthrottled s hinterval
  refine ⟨fun events ↦ ⟨Scan.length_steps s events, hwritten .out events, ?_⟩, ?_, ?_, ?_, ?_⟩
  · have hlines : Scan.linesOn s .err = fun event ↦
        if s.verbose then Scan.eventComplaints s event else [] := rfl
    rw [hwritten .err events, hlines, Scan.flatMap_told, apply_ite Effect.text, Effect.text_nil]
  · intro r w packets reason hsettings hopen
    rw [Run.limited_unlimited, ← hsettings]
    exact ⟨w.packets_events 0 packets, r.result_run w hopen, r.written_run w hopen⟩
  · intro verbose events
    rw [hwritten .out events, Scan.written_run_unthrottled { s with verbose } hinterval .out events]
    rfl
  · intro stream xs ys
    rw [hwritten, hwritten, hwritten, List.flatMap_append, Effect.text_append]
  · intro xs event ys hbeaconless
    rw [hwritten, hwritten, List.flatMap_append, List.flatMap_cons, List.flatMap_append]
    change Effect.text (_ ++ (Scan.eventLines s event ++ _)) = _
    rw [Scan.eventLines_beaconless s event hbeaconless, List.nil_append]

/-- A scan for one device that tells what is malformed. -/
def talkativeScan : ScanSettings :=
  ⟨.all, "beacon", none, [⟨⟨[1, 2, 3, 4, 5, 6], rfl⟩⟩], true⟩

/-- A packet that is cut off, and one with a URL from the device. -/
def cutAndWhole : List ScanEvent :=
  [⟨[0x04, 0x3E], 5, 0⟩,
    ⟨[0x04, 0x3E, 0x1A, 0x02, 0x01, 0x03, 0x01, 6, 5, 4, 3, 2, 1, 14, 3, 3, 0xAA, 0xFE, 9, 0x16,
      0xAA, 0xFE, 0x10, 0xEB, 2, 0x61, 0x62, 0x07, 0xC5], 7, 0⟩]

theorem scan_unthrottled_talkativeScan :
    talkativeScan.interval = none ∧
    Effect.written .out (Scan.run talkativeScan cutAndWhole) =
      "beacon,address=01:02:03:04:05:06,frame=url,kind=eddystone " ++
        "flags=0i,rssi=-59i,tx_power=-21i,url=\"http://ab.com\" 7\n" ∧
    Effect.written .err (Scan.run talkativeScan cutAndWhole) =
      "Malformed advertising report: event header needs 5 bytes " ++
        "but the event is 2 bytes long\n" := by
  rcases scan_unthrottled talkativeScan rfl with ⟨hevents, -⟩
  rcases hevents cutAndWhole with ⟨-, hout, herr⟩
  refine ⟨rfl, hout.trans ?_, herr.trans ?_⟩
  · decide +kernel
  · decide +kernel

end BleBeacon
