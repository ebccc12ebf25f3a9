import Mathlib
import BleBeacon.Beacon.Batch

/-!
# Reports in a batch

A batch is put together from what each report gives, in the order of the reports.  A report gives a
beacon with its own address and strength, or is skipped for a reason of its own, or gives nothing;
what the others give does not depend on it.
-/

namespace BleBeacon

/-- What a report gives for a format, by what the format makes of its payload. -/
inductive Report.Gives (kind : BeaconKind) (r : Report) : Batch → Prop where
  | beacon {b : Beacon} (hfound : kind.recognize r.payload = .ok (some b)) :
      Gives kind r ⟨[{ b with address := some r.address, rssi := some r.rssi }], []⟩
  | skipped {e : DecodeError} (hmalformed : kind.recognize r.payload = .error e) :
      Gives kind r ⟨[], [⟨r.address, kind, e⟩]⟩
  | nothing (hnone : kind.recognize r.payload = .ok none) : Gives kind r ⟨[], []⟩

namespace Batch

instance : Append Batch := ⟨fun x y ↦ ⟨x.beacons ++ y.beacons, x.skipped ++ y.skipped⟩⟩

/-- Batches one behind the other. -/
def join (parts : List Batch) : Batch := parts.foldr (· ++ ·) ⟨[], []⟩

theorem append_def (x y : Batch) : x ++ y = ⟨x.beacons ++ y.beacons, x.skipped ++ y.skipped⟩ := rfl

theorem append_assoc (x y z : Batch) : x ++ y ++ z = x ++ (y ++ z) := by
  simp only [append_def, List.append_assoc]

variable (kind : BeaconKind)

theorem ofReports_append (xs ys : List Report) :
    ofReports kind (xs ++ ys) = ofReports kind xs ++ ofReports kind ys := by
  simp only [ofReports, List.filterMap_append, append_def]

theorem ofReports_cons (r : Report) (rest : List Report) :
    ofReports kind (r :: rest) = ofReports kind [r] ++ ofReports kind rest :=
  ofReports_append kind [r] rest

theorem gives_ofReports (r : Report) : r.Gives kind (ofReports kind [r]) := by
  simp only [ofReports, List.filterMap_cons, List.filterMap_nil, Report.finding]
  cases hrecognize : kind.recognize r.payload with
  | error e => exact .skipped hrecognize
  | ok found =>
    cases found with
    | none => exact .nothing hrecognize
    | some b => exact .beacon hrecognize

theorem eq_ofReports_of_gives {r : Report} {part : Batch} (h : r.Gives kind part) :
    part = ofReports kind [r] := by
  simp only [ofReports, List.filterMap_cons, List.filterMap_nil, Report.finding]
  cases h with
  | beacon hfound => rw [hfound]
  | skipped hmalformed => rw [hmalformed]
  | nothing hnone => rw [hnone]

/-- The parts of a batch are what its reports give, one by one. -/
theorem exists_parts (reports : List Report) :
    ∃ parts, List.Forall₂ (Report.Gives kind) reports parts ∧
      ofReports kind reports = join parts := by
  induction reports with
  | nil => exact ⟨[], .nil, rfl⟩
  | cons r rest ih =>
    rcases ih with ⟨parts, hparts, hjoin⟩
    refine ⟨ofReports kind [r] :: parts, .cons (gives_ofReports kind r) hparts, ?_⟩
    rw [ofReports_cons, hjoin]
    rfl

theorem parts_unique {reports : List Report} {parts parts' : List Batch}
    (h : List.Forall₂ (Report.Gives kind) reports parts)
    (h' : List.Forall₂ (Report.Gives kind) reports parts') : parts' = parts := by
  induction h generalizing parts' with
  | nil => cases h'; rfl
  | cons hr _ ih =>
    cases h' with
    | cons hr' hrest' =>
      rw [eq_ofReports_of_gives kind hr, eq_ofReports_of_gives kind hr', ih hrest']

/-- What a report gives stands between what those in front of it and those behind it give. -/
theorem exists_ofReports_eq (front : List Report) (r : Report) (back : List Report) :
    ∃ part, r.Gives kind part ∧ ofReports kind (front ++ r :: back) =
      ofReports kind front ++ part ++ ofReports kind back := by
  refine ⟨ofReports kind [r], gives_ofReports kind r, ?_⟩
  rw [ofReports_append, ofReports_cons, append_assoc]

/-- Decoding keeps the reports of an event apart.  Each of them gives exactly one of a beacon, an
entry among those that are skipped, and nothing, and the batch is what they give, in their order.
So the batches of two events make up that of both, and another report in the place of one changes
nothing but its own part. -/
theorem ofSet_keeps_reports_apart (set : ReportSet) :
    (∃ parts, List.Forall₂ (Report.Gives kind) set.reports parts ∧
      (∀ parts', List.Forall₂ (Report.Gives kind) set.reports parts' → parts' = parts) ∧
      (ofSet kind set).value = join parts) ∧
    (∀ set₁ set₂, set.reports = set₁.reports ++ set₂.reports →
      (ofSet kind set).value = (ofSet kind set₁).value ++ (ofSet kind set₂).value) ∧
    (∀ front r back, set.reports = front ++ r :: back →
      ∀ r' set', set'.reports = front ++ r' :: back →
        ∃ part part', r.Gives kind part ∧ r'.Gives kind part' ∧
          (ofSet kind set).value = ofReports kind front ++ part ++ ofReports kind back ∧
          (ofSet kind set').value = ofReports kind front ++ part' ++ ofReports kind back) := by
  have hvalue : ∀ set, (ofSet kind set).value = ofReports kind set.reports := fun _ ↦ rfl
  refine ⟨?_, ?_, ?_⟩
  · rcases exists_parts kind set.reports with ⟨parts, hparts, hjoin⟩
    exact ⟨parts, hparts, fun _ hparts' ↦ parts_unique kind hparts hparts', hjoin⟩
  · intro set₁ set₂ hreports
    rw [hvalue, hvalue, hvalue, hreports, ofReports_append]
  · intro front r back hreports r' set' hreports'
    rcases exists_ofReports_eq kind front r back with ⟨part, hpart, heq⟩
    rcases exists_ofReports_eq kind front r' back with ⟨part', hpart', heq'⟩
    rw [hvalue, hvalue, hreports, hreports']
    exact ⟨part, part', hpart, hpart', heq, heq'⟩

/-- A report that is cut off, one with a URL, and one with flags only. -/
def tornReport : Report :=
  ⟨.nonConnectableUndirected, .randomDevice, ⟨.zero 6⟩, [0x05, 0xFF, 0x4C], -50⟩

def urlReport : Report :=
  ⟨.nonConnectableUndirected, .randomDevice, ⟨⟨[0xF0, 1, 2, 3, 4, 5], rfl⟩⟩,
    [3, 3, 0xAA, 0xFE, 9, 0x16, 0xAA, 0xFE, 0x10, 0xEB, 2, 0x61, 0x62, 0x07], -59⟩

def flagsReport : Report :=
  ⟨.connectableUndirected, .publicDevice, ⟨.zero 6⟩, [0x02, 0x01, 0x06], -60⟩

def mixedSet : ReportSet := ⟨0x04, 0x3E, 0x2E, 0x02, 3, [tornReport, urlReport, flagsReport]⟩

theorem ofSet_keeps_reports_apart_mixedSet :
    mixedSet.reports = [tornReport] ++ urlReport :: [flagsReport] ∧
    (∃ part part', urlReport.Gives .eddystone part ∧ flagsReport.Gives .eddystone part' ∧
      (ofSet .eddystone mixedSet).value =
        ofReports .eddystone [tornReport] ++ part ++ ofReports .eddystone [flagsReport] ∧
      (ofSet .eddystone { mixedSet with reports := [tornReport, flagsReport, flagsReport] }).value =
        ofReports .eddystone [tornReport] ++ part' ++ ofReports .eddystone [flagsReport]) ∧
    (ofSet .eddystone mixedSet).value =
      ⟨[⟨.none, -21, some (-59), some ⟨⟨[0xF0, 1, 2, 3, 4, 5], rfl⟩⟩,
          .eddystone (.url .http "ab.com")⟩],
        [⟨⟨.zero 6⟩, .eddystone, .truncatedStructure 0 5 2⟩]⟩ := by
  have hreports : mixedSet.reports = [tornReport] ++ urlReport :: [flagsReport] := rfl
  refine ⟨hreports, ?_, by decide +kernel⟩
  exact (ofSet_keeps_reports_apart .eddystone mixedSet).2.2 _ _ _ hreports flagsReport
    { mixedSet with reports := [tornReport, flagsReport, flagsReport] } rfl

end Batch

end BleBeacon
