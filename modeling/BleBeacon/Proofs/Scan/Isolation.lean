import Mathlib
import BleBeacon.Proofs.Scan.Sightings
import BleBeacon.Proofs.Throttle

/-!
# Devices and formats do not influence each other

The throttle is shared by all that a scan sees, but it keeps each device and format apart.  So the
lines of some of them are those of a scan that sees nothing else, whatever the settings let through
besides, and whatever other packets and reports there are.
-/

namespace BleBeacon

namespace Scan

/-! ## Throttling some keys -/

theorem admits_agree {p : BeaconKey → Prop} {throttle throttle' : Option (Throttle BeaconKey)}
    (h : Option.Rel (Throttle.AgreeOn p) throttle throttle') (clock : Nat) {b : Beacon}
    (hkey : p (b.address, b.kind)) :
    (admits throttle clock b).1 = (admits throttle' clock b).1 ∧
      Option.Rel (Throttle.AgreeOn p) (admits throttle clock b).2 (admits throttle' clock b).2 := by
  cases h with
  | none => exact ⟨rfl, .none⟩
  | some hagree =>
    have hadmits := hagree.admits hkey clock
    exact ⟨hadmits.1, .some hadmits.2⟩

theorem admits_agree_left {p : BeaconKey → Prop} {throttle throttle' : Option (Throttle BeaconKey)}
    (h : Option.Rel (Throttle.AgreeOn p) throttle throttle') (clock : Nat) {b : Beacon}
    (hkey : ¬ p (b.address, b.kind)) :
    Option.Rel (Throttle.AgreeOn p) (admits throttle clock b).2 throttle' := by
  cases h with
  | none => exact .none
  | some hagree => exact .some (hagree.admits_left hkey clock)

/-- What passes of some keys is what passes when only these are seen. -/
theorem filter_passing_of_agree (p : BeaconKey → Prop) [DecidablePred p]
    {throttle throttle' : Option (Throttle BeaconKey)}
    (h : Option.Rel (Throttle.AgreeOn p) throttle throttle') (xs : List Sighting) :
    (passing throttle xs).filter (p ·.key) = passing throttle' (xs.filter (p ·.key)) := by
  induction xs generalizing throttle throttle' with
  | nil => rfl
  | cons x rest ih =>
    rw [passing, List.filter_append, apply_ite (List.filter _), List.filter_nil]
    by_cases hkey : p x.key
    · have hadmits := admits_agree h x.clock hkey
      have hobservation : [x.observation].filter (p ·.key) = [x.observation] :=
        List.filter_cons_of_pos (decide_eq_true hkey)
      have hsighting : (x :: rest).filter (p ·.key) = x :: rest.filter (p ·.key) :=
        List.filter_cons_of_pos (decide_eq_true hkey)
      rw [hobservation, hsighting, passing, ← hadmits.1, ih hadmits.2]
    · have hobservation : [x.observation].filter (p ·.key) = [] :=
        List.filter_cons_of_neg fun hp ↦ hkey (of_decide_eq_true hp)
      have hsighting : (x :: rest).filter (p ·.key) = rest.filter (p ·.key) :=
        List.filter_cons_of_neg fun hp ↦ hkey (of_decide_eq_true hp)
      rw [hobservation, hsighting, ite_self, List.nil_append,
        ih (admits_agree_left h x.clock hkey)]

theorem filter_passing (p : BeaconKey → Prop) [DecidablePred p]
    (throttle : Option (Throttle BeaconKey)) (xs : List Sighting) :
    (passing throttle xs).filter (p ·.key) = passing throttle (xs.filter (p ·.key)) := by
  refine filter_passing_of_agree p ?_ xs
  cases throttle with
  | none => exact .none
  | some t => exact .some ⟨rfl, fun _ _ ↦ rfl⟩

/-! ## Lines of some keys -/

/-- The lines that a scan writes about some devices and formats. -/
def linesWhere (p : BeaconKey → Prop) [DecidablePred p] (s : ScanSettings)
    (events : List ScanEvent) : List String :=
  ((reported s events).filter (p ·.key)).map (Observation.line s.measurement)

/-- The sightings of some devices and formats. -/
def sightingsWhere (p : BeaconKey → Prop) [DecidablePred p] (events : List ScanEvent) :
    List Sighting :=
  (events.flatMap sightings).filter (p ·.key)

/-- Lines are those of the sightings that are to be reported, as if nothing else were seen. -/
theorem linesWhere_eq (p : BeaconKey → Prop) [DecidablePred p] (s : ScanSettings)
    (events : List ScanEvent) :
    linesWhere p s events =
      (passing s.throttle (sightingsWhere (fun key ↦ p key ∧ s.Reports key) events)).map
        (Observation.line s.measurement) := by
  rw [linesWhere, reported, filter_passing, List.filter_filter, sightingsWhere]
  simp only [Bool.decide_and]

theorem sightingsWhere_congr {p p' : BeaconKey → Prop} [DecidablePred p] [DecidablePred p']
    (h : ∀ key, p key ↔ p' key) (events : List ScanEvent) :
    sightingsWhere p events = sightingsWhere p' events :=
  List.filter_congr fun x _ ↦ decide_eq_decide.mpr (h x.key)

/-- Settings matter by what they let through, and by the interval. -/
theorem linesWhere_congr {p p' : BeaconKey → Prop} [DecidablePred p] [DecidablePred p']
    {s s' : ScanSettings} (hinterval : s.interval = s'.interval)
    (hmeasurement : s.measurement = s'.measurement)
    (h : ∀ key, p key ∧ s.Reports key ↔ p' key ∧ s'.Reports key) (events : List ScanEvent) :
    linesWhere p s events = linesWhere p' s' events := by
  rw [linesWhere_eq, linesWhere_eq, sightingsWhere_congr h, hmeasurement, ScanSettings.throttle,
    hinterval]
  rfl

/-- The lines about one device and format come from its own sightings. -/
theorem linesWhere_key (s : ScanSettings) (key : BeaconKey) (events : List ScanEvent) :
    linesWhere (· = key) s events =
      if s.Reports key then
        (passing s.throttle (sightingsWhere (· = key) events)).map
          (Observation.line s.measurement)
      else [] := by
  rw [linesWhere_eq]
  by_cases hreports : s.Reports key
  · have hall : sightingsWhere (fun other ↦ other = key ∧ s.Reports other) events =
        sightingsWhere (· = key) events := by
      apply sightingsWhere_congr
      intro other
      refine ⟨fun h ↦ h.1, ?_⟩
      rintro rfl
      exact ⟨rfl, hreports⟩
    rw [if_pos hreports, hall]
  · have hnone : sightingsWhere (fun other ↦ other = key ∧ s.Reports other) events = [] := by
      rw [sightingsWhere, List.filter_eq_nil_iff]
      intro x _ h
      obtain ⟨hkey, hreported⟩ := of_decide_eq_true h
      rw [hkey] at hreported
      exact hreports hreported
    rw [if_neg hreports, hnone]
    rfl

/-- A filter keeps the lines of its devices as they are. -/
theorem linesWhere_addresses (s : ScanSettings) {a : DeviceAddress} (ha : a ∈ s.addresses)
    (events : List ScanEvent) :
    linesWhere (·.1 = some a) s events =
      linesWhere (·.1 = some a) { s with addresses := [] } events := by
  have hreports : ∀ key : BeaconKey, key.1 = some a ∧ s.Reports key ↔
      key.1 = some a ∧ ScanSettings.Reports { s with addresses := [] } key := by
    intro key
    refine and_congr_right fun hkey ↦ and_congr_left fun _ ↦ ?_
    rw [hkey]
    refine ⟨fun _ _ _ ↦ .inl rfl, ?_⟩
    rintro - b hb
    obtain rfl := Option.some.inj hb
    exact .inr ha
  apply linesWhere_congr
  · rfl
  · rfl
  · exact hreports

/-- A selection of one format keeps the lines of that format as they are, and no others. -/
theorem linesWhere_selection (s : ScanSettings) {selection : Selection} {kind : BeaconKind}
    (hkinds : selection.kinds = [kind]) (events : List ScanEvent) :
    linesWhere (fun _ ↦ True) { s with selection } events =
      linesWhere (·.2 = kind) { s with selection := .all } events := by
  have hcovers : ∀ k, selection.Covers k ↔ k = kind := by
    intro k
    cases selection <;> cases hkinds <;> rfl
  apply linesWhere_congr
  · rfl
  · rfl
  · intro key
    change True ∧ _ ∧ selection.Covers key.2 ↔ key.2 = kind ∧ _ ∧ True
    rw [hcovers key.2, true_and, and_true]
    exact and_comm

theorem written_run_eq_text_linesWhere (s : ScanSettings) (events : List ScanEvent) :
    Effect.written .out (run s events) = Effect.text (linesWhere (fun _ ↦ True) s events) := by
  have htrue : (reported s events).filter (fun _ ↦ decide True) = reported s events := by simp
  rw [written_run, linesWhere, htrue]

theorem sightings_of_parseReports {event : ScanEvent} {set : ReportSet}
    (h : parseReports event.packet = .ok (some set)) :
    sightings event = sightingsIn event set.reports [.eddystone, .iBeacon] := by
  rw [sightings, h]

theorem mem_sightings {event : ScanEvent} {x : Sighting} (h : x ∈ sightings event) :
    ∃ set, parseReports event.packet = .ok (some set) ∧ ∃ r ∈ set.reports, ∃ kind,
      x.key = (some r.address, kind) ∧ ∃ found, kind.recognize r.payload = .ok (some found) := by
  rw [sightings] at h
  split at h
  · rename_i set hset
    obtain ⟨kind, -, r, hr, hkey, hfound⟩ := key_of_mem_sightingsIn h
    exact ⟨set, hset, r, hr, kind, hkey, hfound⟩
  · exact absurd h List.not_mem_nil

theorem mem_of_mem_passing {throttle : Option (Throttle BeaconKey)} {xs : List Sighting}
    {o : Observation} (h : o ∈ passing throttle xs) : ∃ x ∈ xs, x.observation = o := by
  induction xs generalizing throttle with
  | nil => exact absurd h List.not_mem_nil
  | cons x rest ih =>
    rw [passing, List.mem_append] at h
    rcases h with h | h
    · split at h
      · exact ⟨x, List.mem_cons_self, (List.mem_singleton.mp h).symm⟩
      · exact absurd h List.not_mem_nil
    · rcases ih h with ⟨x', hx', ho⟩
      exact ⟨x', List.mem_cons_of_mem _ hx', ho⟩

theorem address_of_mem_reported {s : ScanSettings} {events : List ScanEvent} {o : Observation}
    (h : o ∈ reported s events) : ∃ a, o.beacon.address = some a := by
  obtain ⟨x, hx, rfl⟩ := mem_of_mem_passing h
  obtain ⟨event, -, hevent⟩ := List.mem_flatMap.mp (List.mem_filter.mp hx).1
  obtain ⟨-, -, r, -, kind, hkey, -⟩ := mem_sightings hevent
  exact ⟨r.address, congrArg Prod.fst hkey⟩

end Scan

/-! ## Other packets and other reports -/

/-- Reports in which there is no beacon of a format from a device. -/
def Report.SilentOn (a : DeviceAddress) (kind : BeaconKind) (r : Report) : Prop :=
  r.address ≠ a ∨ ∀ b, kind.recognize r.payload ≠ .ok (some b)

namespace Scan

/-- Events with one addition that says nothing about a device and a format: a packet, which may be
malformed or foreign, or a report in one of the packets. -/
inductive Adds (a : DeviceAddress) (kind : BeaconKind) :
    List ScanEvent → List ScanEvent → Prop where
  | packet (before after : List ScanEvent) (event : ScanEvent)
      (hsilent : ∀ set, parseReports event.packet = .ok (some set) →
        ∀ r ∈ set.reports, r.SilentOn a kind) :
      Adds a kind (before ++ after) (before ++ event :: after)
  | report (before after : List ScanEvent) (event : ScanEvent) (packet : Bytes)
      {set set' : ReportSet} {front back : List Report} {r : Report}
      (hset : parseReports event.packet = .ok (some set)) (hreports : set.reports = front ++ back)
      (hset' : parseReports packet = .ok (some set'))
      (hreports' : set'.reports = front ++ r :: back)
      (hsilent : r.SilentOn a kind) :
      Adds a kind (before ++ event :: after) (before ++ { event with packet } :: after)

variable {a : DeviceAddress} {kind : BeaconKind}

theorem key_ne_of_silentOn {r : Report} (hsilent : r.SilentOn a kind) {k : BeaconKind}
    (hfound : ∃ found, k.recognize r.payload = .ok (some found)) :
    (some r.address, k) ≠ (some a, kind) := by
  intro hkey
  cases hkey
  rcases hsilent with haddress | hnone
  · exact haddress rfl
  · rcases hfound with ⟨found, hfound⟩
    exact hnone found hfound

theorem filter_sightingsIn_insert (event : ScanEvent) (front back : List Report) {r : Report}
    (hsilent : r.SilentOn a kind) (kinds : List BeaconKind) :
    (sightingsIn event (front ++ r :: back) kinds).filter (·.key = (some a, kind)) =
      (sightingsIn event (front ++ back) kinds).filter (·.key = (some a, kind)) := by
  rw [sightingsIn, sightingsIn, List.filter_flatMap, List.filter_flatMap]
  refine congrArg (fun f ↦ kinds.flatMap f) (funext fun k ↦ ?_)
  rw [List.filterMap_append, List.filterMap_append, List.filterMap_cons]
  cases hbeacon : r.beacon? k with
  | none => rfl
  | some b =>
    obtain ⟨haddress, hkind, hfound⟩ := Report.beacon?_eq_some hbeacon
    have hkey : ¬ (sightingOf event b).key = (some a, kind) := by
      intro heq
      have hbkey : (sightingOf event b).key = (some r.address, k) := by
        rw [← haddress, ← hkind]
        rfl
      exact key_ne_of_silentOn hsilent hfound (hbkey.symm.trans heq)
    rw [List.map_append, List.map_append, List.map_cons, List.filter_append, List.filter_append,
      List.filter_cons, if_neg fun h ↦ hkey (of_decide_eq_true h)]

theorem sightingsWhere_of_adds {events events' : List ScanEvent} (h : Adds a kind events events') :
    sightingsWhere (· = (some a, kind)) events = sightingsWhere (· = (some a, kind)) events' := by
  cases h with
  | packet before after event hsilent =>
    have hnone : (sightings event).filter (·.key = (some a, kind)) = [] := by
      rw [List.filter_eq_nil_iff]
      intro x hx hkey
      obtain ⟨set, hset, r, hr, k, hxkey, hfound⟩ := mem_sightings hx
      exact key_ne_of_silentOn (hsilent set hset r hr) hfound
        (hxkey.symm.trans (of_decide_eq_true hkey))
    simp only [sightingsWhere, List.flatMap_append, List.flatMap_cons, List.filter_append, hnone,
      List.nil_append]
  | report before after event packet hset hreports hset' hreports' hsilent =>
    have hevent : (sightings event).filter (·.key = (some a, kind)) =
        (sightings { event with packet }).filter (·.key = (some a, kind)) := by
      rw [sightings_of_parseReports hset, sightings_of_parseReports hset', hreports, hreports']
      exact (filter_sightingsIn_insert event _ _ hsilent _).symm
    simp only [sightingsWhere, List.flatMap_append, List.flatMap_cons, List.filter_append, hevent]

theorem linesWhere_of_eqvGen_adds (s : ScanSettings) {events events' : List ScanEvent}
    (h : Relation.EqvGen (Adds a kind) events events') :
    linesWhere (· = (some a, kind)) s events = linesWhere (· = (some a, kind)) s events' := by
  have hsightings : sightingsWhere (· = (some a, kind)) events =
      sightingsWhere (· = (some a, kind)) events' := by
    induction h with
    | rel _ _ h => exact sightingsWhere_of_adds h
    | refl _ => rfl
    | symm _ _ _ ih => exact ih.symm
    | trans _ _ _ _ _ ih ih' => exact ih.trans ih'
  rw [linesWhere_key, linesWhere_key, hsightings]

end Scan

/-- A scan writes lines that tell whose they are.  Those about a device and a format are the ones
that it would write if it saw nothing else: the other devices that the filter lets through, the
other format, and what is added to the run or left out of it make no difference to them. -/
theorem scan_isolates (s : ScanSettings) (events : List ScanEvent) :
    Effect.written .out (Scan.run s events) =
      Effect.text (Scan.linesWhere (fun _ ↦ True) s events) ∧
    (∀ o ∈ Scan.reported s events, ∃ a, o.beacon.address = some a ∧
      ∀ o' ∈ Scan.reported s events,
        Observation.line s.measurement o' = Observation.line s.measurement o → o'.key = o.key) ∧
    (∀ key, Scan.linesWhere (· = key) s events =
      if s.Reports key then
        (Scan.passing s.throttle (Scan.sightingsWhere (· = key) events)).map
          (Observation.line s.measurement)
      else []) ∧
    (∀ a ∈ s.addresses, Scan.linesWhere (·.1 = some a) s events =
      Scan.linesWhere (·.1 = some a) { s with addresses := [] } events) ∧
    (∀ selection kind, selection.kinds = [kind] →
      Effect.written .out (Scan.run { s with selection } events) =
        Effect.text (Scan.linesWhere (·.2 = kind) { s with selection := .all } events)) ∧
    (∀ a kind events', Relation.EqvGen (Scan.Adds a kind) events events' →
      Scan.linesWhere (· = (some a, kind)) s events' =
        Scan.linesWhere (· = (some a, kind)) s events) := by
  refine ⟨Scan.written_run_eq_text_linesWhere s events, ?_,
    fun key ↦ Scan.linesWhere_key s key events, ?_, ?_, ?_⟩
  · intro o ho
    obtain ⟨a, haddress⟩ := Scan.address_of_mem_reported ho
    refine ⟨a, haddress, fun o' ho' hline ↦ ?_⟩
    obtain ⟨a', haddress'⟩ := Scan.address_of_mem_reported ho'
    exact Observation.key_eq_of_line_eq haddress' haddress hline
  · intro a ha
    exact Scan.linesWhere_addresses s ha events
  · intro selection kind hkinds
    rw [Scan.written_run_eq_text_linesWhere, Scan.linesWhere_selection s hkinds]
  · intro a kind events' hadds
    exact (Scan.linesWhere_of_eqvGen_adds s hadds).symm

/-- The device whose beacons are scanned for. -/
def nearDevice : DeviceAddress := ⟨⟨[0xC0, 0x11, 0x22, 0x33, 0x44, 0x55], rfl⟩⟩

/-- A scan for one device with at most one line a second. -/
def thriftyScan : ScanSettings := ⟨.all, "beacon", some 1000000000, [nearDevice], false⟩

/-- A URL from the device, seen at the start, half a second later, and after more than a second. -/
def repeatedUrl : List ScanEvent :=
  [0, 500000000, 1200000000].map fun (clock : Nat) ↦
    ⟨[0x04, 0x3E, 0x1A, 0x02, 0x01, 0x03, 0x01, 0x55, 0x44, 0x33, 0x22, 0x11, 0xC0, 14, 3, 3, 0xAA,
      0xFE, 9, 0x16, 0xAA, 0xFE, 0x10, 0xEB, 2, 0x61, 0x62, 0x07, 0xC5], clock + 7, clock⟩

theorem scan_isolates_thriftyScan :
    nearDevice ∈ thriftyScan.addresses ∧
    Selection.eddystone.kinds = [.eddystone] ∧
    Relation.EqvGen (Scan.Adds nearDevice .eddystone) repeatedUrl
      (⟨[0x04, 0x3E], 5, 0⟩ :: repeatedUrl) ∧
    Scan.linesWhere (·.1 = some nearDevice) thriftyScan repeatedUrl =
      Scan.linesWhere (·.1 = some nearDevice) { thriftyScan with addresses := [] } repeatedUrl ∧
    Effect.written .out (Scan.run { thriftyScan with selection := .eddystone } repeatedUrl) =
      Effect.text (Scan.linesWhere (·.2 = .eddystone) thriftyScan repeatedUrl) ∧
    Scan.linesWhere (· = (some nearDevice, .eddystone)) thriftyScan
        (⟨[0x04, 0x3E], 5, 0⟩ :: repeatedUrl) =
      ["beacon,address=C0:11:22:33:44:55,frame=url,kind=eddystone " ++
          "flags=0i,rssi=-59i,tx_power=-21i,url=\"http://ab.com\" 7",
        "beacon,address=C0:11:22:33:44:55,frame=url,kind=eddystone " ++
          "flags=0i,rssi=-59i,tx_power=-21i,url=\"http://ab.com\" 1200000007"] := by
  have hmember : nearDevice ∈ thriftyScan.addresses := List.mem_singleton.mpr rfl
  have hmalformed : parseReports [0x04, 0x3E] = .error (.malformedReport .header 5 2) := by decide
  have hadds : Relation.EqvGen (Scan.Adds nearDevice .eddystone) repeatedUrl
      (⟨[0x04, 0x3E], 5, 0⟩ :: repeatedUrl) := by
    refine .rel _ _ (.packet [] repeatedUrl ⟨[0x04, 0x3E], 5, 0⟩ fun set hset ↦ ?_)
    rw [hmalformed] at hset
    cases hset
  obtain ⟨-, -, -, hfilter, hselection, hedit⟩ := scan_isolates thriftyScan repeatedUrl
  refine ⟨hmember, rfl, hadds, hfilter nearDevice hmember, hselection .eddystone .eddystone rfl, ?_⟩
  rw [hedit nearDevice .eddystone _ hadds]
  decide +kernel

end BleBeacon
