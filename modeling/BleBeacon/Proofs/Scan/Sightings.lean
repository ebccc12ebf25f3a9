import Mathlib
import BleBeacon.Proofs.Beacon.Recognition
import BleBeacon.Proofs.Observation
import BleBeacon.Proofs.Scan.Unthrottled

/-!
# Sightings

A scan sees beacons, whatever its settings.  The settings say which of them are to be reported, and
the throttle which of these pass.  The loop is shown to write the lines of those that pass, in the
order in which they are seen.
-/

namespace BleBeacon

/-- An observation, and what the clock says while it is made. -/
structure Sighting where
  observation : Observation
  clock : Nat

def Sighting.key (x : Sighting) : BeaconKey := x.observation.key

/-- The beacon of a format in a report. -/
def Report.beacon? (kind : BeaconKind) (r : Report) : Option Beacon :=
  match kind.recognize r.payload with
  | .ok (some b) => some { b with address := some r.address, rssi := some r.rssi }
  | _ => none

theorem Report.beacon?_eq_some {kind : BeaconKind} {r : Report} {b : Beacon}
    (h : r.beacon? kind = some b) :
    b.address = some r.address ∧ b.kind = kind ∧ ∃ found, kind.recognize r.payload =
      .ok (some found) := by
  unfold Report.beacon? at h
  split at h
  · rename_i found hfound
    cases h
    exact ⟨rfl, (BeaconKind.recognize_eq_some hfound).1, found, hfound⟩
  · cases h

theorem Batch.beacons_ofReports (kind : BeaconKind) (reports : List Report) :
    (Batch.ofReports kind reports).beacons = reports.filterMap (Report.beacon? kind) := by
  rw [Batch.ofReports]
  refine List.filterMap_congr fun r _ ↦ ?_
  rw [Report.finding, Report.beacon?]
  cases kind.recognize r.payload with
  | error e => rfl
  | ok found => cases found <;> rfl

/-- Keys of which there are to be lines. -/
def ScanSettings.Reports (s : ScanSettings) (key : BeaconKey) : Prop :=
  (∀ a ∈ key.1, s.Wants a) ∧ s.selection.Covers key.2

instance (s : ScanSettings) (key : BeaconKey) : Decidable (s.Reports key) :=
  inferInstanceAs (Decidable ((∀ a ∈ key.1, s.Wants a) ∧ s.selection.Covers key.2))

namespace Scan

def sightingOf (event : ScanEvent) (b : Beacon) : Sighting := ⟨⟨b, event.time⟩, event.clock⟩

/-- What is seen of some formats in the reports of an event. -/
def sightingsIn (event : ScanEvent) (reports : List Report) (kinds : List BeaconKind) :
    List Sighting :=
  kinds.flatMap fun kind ↦ (reports.filterMap (Report.beacon? kind)).map (sightingOf event)

/-- What is seen in an event. -/
def sightings (event : ScanEvent) : List Sighting :=
  match parseReports event.packet with
  | .ok (some set) => sightingsIn event set.reports [.eddystone, .iBeacon]
  | _ => []

theorem key_of_mem_sightingsIn {event : ScanEvent} {reports : List Report} {kinds : List BeaconKind}
    {x : Sighting} (h : x ∈ sightingsIn event reports kinds) :
    ∃ kind ∈ kinds, ∃ r ∈ reports, x.key = (some r.address, kind) ∧
      ∃ found, kind.recognize r.payload = .ok (some found) := by
  obtain ⟨kind, hkind, hx⟩ := List.mem_flatMap.mp h
  obtain ⟨b, hb, rfl⟩ := List.mem_map.mp hx
  obtain ⟨r, hr, hbeacon⟩ := List.mem_filterMap.mp hb
  obtain ⟨haddress, hbkind, found⟩ := Report.beacon?_eq_some hbeacon
  exact ⟨kind, hkind, r, hr, by rw [← haddress, ← hbkind]; rfl, found⟩

theorem sightingsIn_cons (event : ScanEvent) (reports : List Report) (kind : BeaconKind)
    (rest : List BeaconKind) :
    sightingsIn event reports (kind :: rest) =
      sightingsIn event reports [kind] ++ sightingsIn event reports rest := by
  rw [sightingsIn, List.flatMap_cons, sightingsIn, List.flatMap_singleton, sightingsIn]

/-- The observations that pass the throttle, when all sightings are to be reported. -/
def passing (throttle : Option (Throttle BeaconKey)) : List Sighting → List Observation
  | [] => []
  | x :: rest =>
    let answer := admits throttle x.clock x.observation.beacon
    (if answer.1 then [x.observation] else []) ++ passing answer.2 rest

/-- The throttle behind some sightings. -/
def throttleBehind (throttle : Option (Throttle BeaconKey)) (xs : List Sighting) :
    Option (Throttle BeaconKey) :=
  xs.foldl (fun throttle x ↦ (admits throttle x.clock x.observation.beacon).2) throttle

theorem passing_append (throttle : Option (Throttle BeaconKey)) (xs ys : List Sighting) :
    passing throttle (xs ++ ys) =
      passing throttle xs ++ passing (throttleBehind throttle xs) ys := by
  induction xs generalizing throttle with
  | nil => rfl
  | cons x rest ih =>
    rw [List.cons_append, passing, passing, ih, List.append_assoc]
    rfl

theorem throttleBehind_append (throttle : Option (Throttle BeaconKey)) (xs ys : List Sighting) :
    throttleBehind throttle (xs ++ ys) = throttleBehind (throttleBehind throttle xs) ys :=
  List.foldl_append

/-! ## The loop -/

/-- The effects and the throttle that some sightings leave, as far as the output goes. -/
structure Writes (s : ScanSettings) (throttle : Option (Throttle BeaconKey)) (xs : List Sighting)
    (result : List Effect × Option (Throttle BeaconKey)) : Prop where
  written : Effect.written .out result.1 =
    Effect.text ((passing throttle xs).map (Observation.line s.measurement))
  behind : result.2 = throttleBehind throttle xs

variable {s : ScanSettings} {throttle : Option (Throttle BeaconKey)}

theorem Writes.nil : Writes s throttle [] ([], throttle) := ⟨rfl, rfl⟩

theorem Writes.append {xs ys : List Sighting} {first more : List Effect}
    {between last : Option (Throttle BeaconKey)} (hfirst : Writes s throttle xs (first, between))
    (hmore : Writes s between ys (more, last)) :
    Writes s throttle (xs ++ ys) (first ++ more, last) where
  written := by
    rw [Effect.written_append, hfirst.written, hmore.written, passing_append, List.map_append,
      Effect.text_append, ← hfirst.behind]
  behind := by rw [hmore.behind, throttleBehind_append, ← hfirst.behind]

variable (s : ScanSettings) (throttle : Option (Throttle BeaconKey)) (event : ScanEvent)

/-- The filter looks at addresses only. -/
theorem writes_emit (beacons : List Beacon) :
    Writes s throttle
      ((beacons.filter fun b ↦ decide (∀ a ∈ b.address, s.Wants a)).map (sightingOf event))
      (emit s event throttle beacons) := by
  induction beacons generalizing throttle with
  | nil => exact .nil
  | cons b rest ih =>
    have hany : b.address.any (!s.accepts ·) = !decide (∀ a ∈ b.address, s.Wants a) := by
      cases b.address with
      | none => simp
      | some a => simp [ScanSettings.accepts_eq]
    rw [emit, hany, List.filter_cons]
    by_cases hwanted : ∀ a ∈ b.address, s.Wants a
    · rw [if_pos (by simpa using hwanted), if_neg (by simpa using hwanted)]
      have hfirst : Writes s throttle [sightingOf event b]
          (if (admits throttle event.clock b).1 then
            Effect.line .out (Observation.line s.measurement ⟨b, event.time⟩) else [],
            (admits throttle event.clock b).2) := by
        refine ⟨?_, rfl⟩
        rw [passing, passing, List.append_nil, sightingOf]
        dsimp only
        cases (admits throttle event.clock b).1 with
        | false => rfl
        | true => exact Effect.written_line .out _
      exact hfirst.append (ih _)
    · rw [if_neg (by simpa using hwanted), if_pos (by simpa using hwanted)]
      exact ih throttle

theorem writes_handleKind (set : ReportSet) (kind : BeaconKind) (hkind : s.selection.Covers kind) :
    Writes s throttle ((sightingsIn event set.reports [kind]).filter (s.Reports ·.key))
      (handleKind s event set throttle kind) := by
  have hxs : (sightingsIn event set.reports [kind]).filter (s.Reports ·.key) =
      ((set.reports.filterMap (Report.beacon? kind)).filter
        fun b ↦ decide (∀ a ∈ b.address, s.Wants a)).map (sightingOf event) := by
    rw [sightingsIn, List.flatMap_singleton, List.filter_map]
    congr 1
    refine List.filter_congr fun b hb ↦ ?_
    obtain ⟨r, -, hr⟩ := List.mem_filterMap.mp hb
    have hbkind := (Report.beacon?_eq_some hr).2.1
    refine decide_eq_decide.mpr ⟨fun h ↦ h.1, fun h ↦ ⟨h, ?_⟩⟩
    change s.selection.Covers b.kind
    rw [hbkind]
    exact hkind
  have hlines := writes_emit s throttle event (Batch.ofReports kind set.reports).beacons
  rw [Batch.beacons_ofReports, ← hxs] at hlines
  rw [handleKind, Batch.ofSet]
  simp only [skipped_ofReports, Batch.beacons_ofReports]
  refine ⟨?_, hlines.behind⟩
  rw [Effect.written_append, Effect.written_append, Effect.written_map_log,
    written_flatMap_report, if_neg (by simp), hlines.written]
  rfl

theorem writes_handleKinds (set : ReportSet) (kinds : List BeaconKind)
    (hkinds : ∀ kind ∈ kinds, s.selection.Covers kind) :
    Writes s throttle ((sightingsIn event set.reports kinds).filter (s.Reports ·.key))
      (handleKinds s event set throttle kinds) := by
  induction kinds generalizing throttle with
  | nil => exact .nil
  | cons kind rest ih =>
    rw [sightingsIn_cons, List.filter_append]
    exact .append (writes_handleKind s throttle event set kind (hkinds kind List.mem_cons_self))
      (ih _ fun kind hkind ↦ hkinds kind (List.mem_cons_of_mem _ hkind))

-- A format that is not selected leaves no sighting to be reported.
theorem filter_sightingsIn_covered (reports : List Report) (kinds : List BeaconKind) :
    (sightingsIn event reports (kinds.filter (s.selection.Covers ·))).filter (s.Reports ·.key) =
      (sightingsIn event reports kinds).filter (s.Reports ·.key) := by
  induction kinds with
  | nil => rfl
  | cons kind rest ih =>
    rw [sightingsIn_cons event reports kind rest, List.filter_append, ← ih, List.filter_cons]
    by_cases hkind : s.selection.Covers kind
    · rw [if_pos (by simpa using hkind), sightingsIn_cons, List.filter_append]
    · have hnone : (sightingsIn event reports [kind]).filter (s.Reports ·.key) = [] := by
        rw [List.filter_eq_nil_iff]
        intro x hx hreports
        obtain ⟨k, hk, r, -, hkey, -⟩ := key_of_mem_sightingsIn hx
        rw [List.mem_singleton] at hk
        rw [hkey, hk] at hreports
        exact hkind (of_decide_eq_true hreports).2
      rw [if_neg (by simpa using hkind), hnone, List.nil_append]

theorem writes_handle :
    Writes s throttle ((sightings event).filter (s.Reports ·.key)) (handle s throttle event) := by
  rw [handle, sightings]
  cases hparse : parseReports event.packet with
  | error e =>
    refine ⟨?_, rfl⟩
    have hreport := written_flatMap_report s .out [e.message]
    rw [List.flatMap_singleton, if_neg (by simp)] at hreport
    exact hreport
  | ok found =>
    cases found with
    | none => exact .nil
    | some set =>
      have hwrites := writes_handleKinds s throttle event set s.selection.kinds ?_
      · rwa [Selection.kinds_eq, filter_sightingsIn_covered, ← Selection.kinds_eq] at hwrites
      · intro kind hkind
        rw [Selection.kinds_eq, List.mem_filter] at hkind
        exact of_decide_eq_true hkind.2

theorem written_loop (events : List ScanEvent) :
    Effect.written .out (loop s throttle events).flatten =
      Effect.text ((passing throttle ((events.flatMap sightings).filter (s.Reports ·.key))).map
        (Observation.line s.measurement)) := by
  induction events generalizing throttle with
  | nil => rfl
  | cons event rest ih =>
    have hevent := writes_handle s throttle event
    rw [loop]
    simp only [hevent.behind]
    rw [List.flatten_cons, Effect.written_append, hevent.written, ih, List.flatMap_cons,
      List.filter_append, passing_append, List.map_append, Effect.text_append]

/-- The observations that a scan writes, in order. -/
def reported (s : ScanSettings) (events : List ScanEvent) : List Observation :=
  passing s.throttle ((events.flatMap sightings).filter (s.Reports ·.key))

theorem written_run (s : ScanSettings) (events : List ScanEvent) :
    Effect.written .out (run s events) =
      Effect.text ((reported s events).map (Observation.line s.measurement)) :=
  written_loop s s.throttle events

end Scan

end BleBeacon
