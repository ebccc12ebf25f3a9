import Mathlib
import BleBeacon.Proofs.Capture.Framing
import BleBeacon.Proofs.Hci.Receiving
import BleBeacon.Proofs.Report.Parsing
import BleBeacon.Proofs.Scan.Unthrottled

/-!
# Live scans and replayed ones

A controller passes on LE meta events only.  What it keeps back would not have changed the throttle
or the output of a scan, and of the complaints it would have added those about events that end in
front of their subevent.
-/

namespace BleBeacon

open Hci

namespace Scan

/-! ## Packets that a controller keeps back -/

/-- Packets that start like an LE meta event and end in front of its subevent. -/
def Stub (packet : Bytes) : Prop :=
  (packet.length = 2 ∨ packet.length = 3) ∧ packet.take 2 = [0x04, 0x3E]

instance : DecidablePred Stub := fun packet ↦
  inferInstanceAs (Decidable ((packet.length = 2 ∨ packet.length = 3) ∧ _))

/-- What a packet that is kept back from a scan would have added to a stream. -/
def keptBack (s : ScanSettings) (stream : StreamName) (packet : Bytes) : String :=
  if stream = .err ∧ s.verbose ∧ Stub packet then
    (DecodeError.malformedReport .header 5 packet.length).message ++ "\n"
  else ""

theorem not_foreign_of_stub {packet : Bytes} (h : Stub packet) : ¬ Foreign packet := by
  obtain ⟨hlength, hstart⟩ := h
  rintro (hshort | hother | ⟨sub, hsub, -⟩)
  · omega
  · exact hother hstart
  · rw [List.getElem?_eq_none_iff.mpr (by omega)] at hsub
    cases hsub

theorem stub_of_not_leMeta {packet : Bytes} (h : ¬ Foreign packet) (hmeta : ¬ LeMeta packet) :
    Stub packet := by
  simp only [Foreign, not_or, not_lt, ne_eq, not_not] at h
  obtain ⟨hlength, hstart, -⟩ := h
  have hshort : ¬ 4 ≤ packet.length := fun hlong ↦ hmeta ⟨hlong, hstart⟩
  exact ⟨by omega, hstart⟩

variable (s : ScanSettings) (throttle : Option (Throttle BeaconKey))

theorem handle_of_not_leMeta {event : ScanEvent} (h : ¬ LeMeta event.packet) :
    (handle s throttle event).2 = throttle ∧
      ∀ stream, Effect.written stream (handle s throttle event).1 =
        keptBack s stream event.packet := by
  by_cases hforeign : Foreign event.packet
  · have hstub : ¬ Stub event.packet := fun hstub ↦ not_foreign_of_stub hstub hforeign
    rw [handle, parseReports_foreign hforeign]
    refine ⟨rfl, fun stream ↦ ?_⟩
    rw [keptBack, if_neg fun hall ↦ hstub hall.2.2]
    rfl
  · have hstub := stub_of_not_leMeta hforeign h
    have hshort : event.packet.length < 5 := by
      obtain ⟨hlength, -⟩ := hstub
      omega
    rw [handle, parseReports_short hforeign hshort]
    refine ⟨rfl, fun stream ↦ ?_⟩
    have hreport := written_flatMap_report s stream
      [(DecodeError.malformedReport .header 5 event.packet.length).message]
    rw [List.flatMap_singleton] at hreport
    refine Eq.trans ?_ (hreport.trans ?_)
    · rfl
    · rw [keptBack, Effect.text_cons, Effect.text_nil, String.append_empty]
      simp only [hstub, and_true]

/-! ## Runs over some of the events -/

/-- The text that each event adds to a stream, with the event. -/
def additions (s : ScanSettings) (stream : StreamName) (events : List ScanEvent) :
    List (ScanEvent × String) :=
  events.zip ((steps s events).map (Effect.written stream))

theorem packets_additions (stream : StreamName) (events : List ScanEvent) :
    (additions s stream events).map (·.1.packet) = events.map (·.packet) := by
  have hlength : events.length ≤ ((steps s events).map (Effect.written stream)).length := by
    rw [List.length_map, length_steps]
  have hevents : (additions s stream events).map Prod.fst = events := List.map_fst_zip hlength
  calc (additions s stream events).map (·.1.packet)
      = ((additions s stream events).map Prod.fst).map (·.packet) := by
        rw [List.map_map]
        rfl
    _ = events.map (·.packet) := by rw [hevents]

theorem written_run_eq_join (stream : StreamName) (events : List ScanEvent) :
    Effect.written stream (run s events) =
      String.join ((additions s stream events).map Prod.snd) := by
  have hlength : ((steps s events).map (Effect.written stream)).length ≤ events.length := by
    rw [List.length_map, length_steps]
  rw [additions, List.map_snd_zip hlength, ← Effect.written_flatten, run]

-- By induction with the throttle left open: what is kept back leaves it as it is.
theorem zip_loop_filter (stream : StreamName) (events : List ScanEvent) :
    (events.filter (LeMeta ·.packet)).zip
        ((loop s throttle (events.filter (LeMeta ·.packet))).map (Effect.written stream)) =
      (events.zip ((loop s throttle events).map (Effect.written stream))).filter
        (LeMeta ·.1.packet) := by
  induction events generalizing throttle with
  | nil => rfl
  | cons event rest ih =>
    rw [loop, List.map_cons, List.zip_cons_cons]
    by_cases hmeta : LeMeta event.packet
    · simp only [List.filter_cons, hmeta, decide_true, ↓reduceIte]
      rw [loop, List.map_cons, List.zip_cons_cons, ih]
    · simp only [List.filter_cons, hmeta, decide_false, Bool.false_eq_true, ↓reduceIte]
      rw [(handle_of_not_leMeta s throttle hmeta).1, ih]

theorem snd_of_mem_zip_loop (stream : StreamName) (events : List ScanEvent) :
    ∀ x ∈ events.zip ((loop s throttle events).map (Effect.written stream)),
      ¬ LeMeta x.1.packet → x.2 = keptBack s stream x.1.packet := by
  induction events generalizing throttle with
  | nil => exact fun x hx ↦ absurd hx List.not_mem_nil
  | cons event rest ih =>
    rw [loop, List.map_cons, List.zip_cons_cons]
    refine List.forall_mem_cons.mpr ⟨fun hmeta ↦ ?_, ih _⟩
    exact (handle_of_not_leMeta s throttle hmeta).2 stream

/-- Events that are no LE meta events can be left out, and their additions with them. -/
theorem additions_filter (stream : StreamName) (events : List ScanEvent) :
    additions s stream (events.filter (LeMeta ·.packet)) =
      (additions s stream events).filter (LeMeta ·.1.packet) :=
  zip_loop_filter s s.throttle stream events

theorem snd_of_mem_additions {stream : StreamName} {events : List ScanEvent}
    {x : ScanEvent × String} (hx : x ∈ additions s stream events) (hmeta : ¬ LeMeta x.1.packet) :
    x.2 = keptBack s stream x.1.packet :=
  snd_of_mem_zip_loop s s.throttle stream events x hx hmeta

theorem join_filter_of_empty {α : Type} (p : α → Bool) (pieces : List (α × String))
    (h : ∀ x ∈ pieces, p x.1 = false → x.2 = "") :
    String.join ((pieces.filter (p ·.1)).map Prod.snd) = String.join (pieces.map Prod.snd) := by
  induction pieces with
  | nil => rfl
  | cons x rest ih =>
    obtain ⟨hx, hrest⟩ := List.forall_mem_cons.mp h
    rw [List.map_cons, String.join_cons, ← ih hrest]
    cases hp : p x.1 with
    | true =>
      simp only [List.filter_cons, hp, ↓reduceIte]
      rw [List.map_cons, String.join_cons]
    | false =>
      simp only [List.filter_cons, hp, Bool.false_eq_true, ↓reduceIte]
      rw [hx hp, String.empty_append]

/-- The output of a scan does not need what is no LE meta event. -/
theorem written_out_run_filter (events : List ScanEvent) :
    Effect.written .out (run s (events.filter (LeMeta ·.packet))) =
      Effect.written .out (run s events) := by
  rw [written_run_eq_join, written_run_eq_join, additions_filter]
  refine join_filter_of_empty (fun event : ScanEvent ↦ decide (LeMeta event.packet)) _ ?_
  intro x hx hmeta
  rw [snd_of_mem_additions s hx (of_decide_eq_false hmeta), keptBack,
    if_neg fun hall ↦ StreamName.noConfusion hall.1]

end Scan

/-! ## Sources -/

/-- Scanning with a controller is logged, and writes nothing of its own. -/
theorem written_ofController (run : Hci.ScanRun) (stream : StreamName) :
    Effect.written stream (Opening.ofController run).effects = "" := by
  rw [Opening.ofController, Effect.written_append, Effect.written_map_call, Effect.written_map_log]
  rfl

/-- A controller passes on every LE meta event that is read, whatever reads there are between them.
Packets of at most 258 bytes are read as they are.  If all packets that are read are captured, and
each is handled at the same time, then a scan of the capture has the output of the live scan.  Its
complaints are those of the live scan, each where it was, and one about each event that ends in
front of its subevent. -/
theorem scan_live_eq_replayed {kernel : Kernel} {device : UInt16}
    (hsetup : (run kernel (scanPlan device)).result = .ok ()) (reads : List Read) :
    (Hci.scan kernel device reads).result = .ok ((packetsRead reads).filter (LeMeta ·)) ∧
    ((∀ bytes, .packet bytes ∈ reads → bytes.length ≤ 258) →
      packetsRead reads = packetsSent reads) ∧
    ∀ (records : List Capture.Record) (path : String) (live replayed : ScanRequest)
      (w w' : Surroundings), records.map (·.data) = packetsRead reads →
      w.source live.source = .ofController (Hci.scan kernel device reads) →
      w'.source replayed.source = .ofCapture path (.ofBytes (Capture.ofRecords .h4 records)) →
      live.settings = replayed.settings →
      w.events 0 ((packetsRead reads).filter (LeMeta ·)) =
        (w'.events 0 (packetsRead reads)).filter (LeMeta ·.packet) →
      (live.run w).result = .ok () ∧ (replayed.run w').result = .ok () ∧
      Effect.written .out (live.run w).effects = Effect.written .out (replayed.run w').effects ∧
      ∃ complaints,
        complaints = Scan.additions live.settings .err (w'.events 0 (packetsRead reads)) ∧
        complaints.map (·.1.packet) = packetsRead reads ∧
        Effect.written .err (replayed.run w').effects = String.join (complaints.map (·.2)) ∧
        Effect.written .err (live.run w).effects =
          String.join ((complaints.filter (LeMeta ·.1.packet)).map (·.2)) ∧
        ∀ x ∈ complaints, ¬ LeMeta x.1.packet → x.2 =
          if live.settings.verbose ∧ Scan.Stub x.1.packet then
            (DecodeError.malformedReport .header 5 x.1.packet.length).message ++ "\n"
          else "" := by
  have hresult : (Hci.scan kernel device reads).result = .ok (metaEvents reads) :=
    result_scan hsetup reads
  refine ⟨hresult, packetsRead_eq_packetsSent, ?_⟩
  intro records path live replayed w w' hrecords hlive hreplayed hsettings hevents
  have hfits : ∀ r ∈ records, r.Fits := by
    intro r hr
    have hread : r.data ∈ packetsRead reads := by
      rw [← hrecords]
      exact List.mem_map_of_mem hr
    exact (length_le_of_mem_packetsRead hread).trans (by decide)
  have hresult' := Capture.result_ofRecords path .h4 hfits
  change _ = Except.ok (records.map (·.data)) at hresult'
  rw [hrecords] at hresult'
  have hopen : (w.source live.source).result = .ok (metaEvents reads) := by
    rw [hlive]
    exact hresult
  have hopen' : (w'.source replayed.source).result = .ok (packetsRead reads) := by
    rw [hreplayed, hresult']
  -- Both are runs of the loop over the same events, but for what is kept back.
  have hwritten : ∀ stream, Effect.written stream (live.run w).effects =
      Effect.written stream (Scan.run live.settings
        ((w'.events 0 (packetsRead reads)).filter (LeMeta ·.packet))) := by
    intro stream
    rw [live.written_run w hopen, hlive, written_ofController, String.empty_append, ← hevents]
    rfl
  have hwritten' : ∀ stream, Effect.written stream (replayed.run w').effects =
      Effect.written stream (Scan.run live.settings (w'.events 0 (packetsRead reads))) := by
    intro stream
    rw [Capture.written_run_ofCapture hreplayed hresult', hsettings]
  refine ⟨live.result_run w hopen, replayed.result_run w' hopen', ?_, _, rfl, ?_, ?_, ?_, ?_⟩
  · rw [hwritten, hwritten', Scan.written_out_run_filter]
  · rw [Scan.packets_additions, w'.packets_events]
  · rw [hwritten', Scan.written_run_eq_join]
  · rw [hwritten, Scan.written_run_eq_join, Scan.additions_filter]
  · intro x hx hmeta
    rw [Scan.snd_of_mem_additions live.settings hx hmeta, Scan.keptBack]
    simp only [true_and]

/-- Reads that are interrupted: an event that is cut off, a failure, an event with a URL that would
not have to wait, nothing, and an event of another kind. -/
def interruptedReads : List Read :=
  [.packet [0x04, 0x3E, 0x1A], .failed 4,
    .packet [0x04, 0x3E, 0x1A, 0x02, 0x01, 0x03, 0x01, 6, 5, 4, 3, 2, 1, 14, 3, 3, 0xAA, 0xFE, 9,
      0x16, 0xAA, 0xFE, 0x10, 0xEB, 2, 0x61, 0x62, 0x07, 0xC5],
    .failed 11, .packet [], .packet [0x04, 0x0E, 0x01, 0x02]]

/-- The packets of these reads, as they are captured. -/
def interruptedRecords : List Capture.Record :=
  (packetsRead interruptedReads).map fun packet ↦ ⟨0, 3, 0, 0, packet⟩

def interruptedScan : Hci.ScanRun := Hci.scan .granting 0 interruptedReads

def liveScan : ScanRequest := ⟨⟨.hci, 0, "-"⟩, talkativeScan⟩

def replayedScan : ScanRequest := ⟨⟨.btsnoop, 0, "-"⟩, talkativeScan⟩

/-- The second packet that is read is the first that is passed on. -/
def liveSurroundings : Surroundings :=
  ⟨fun _ ↦ .ofController interruptedScan, .granting, fun n ↦ (n + 6, n + 1)⟩

def replayedSurroundings : Surroundings :=
  ⟨fun _ ↦ .ofCapture "-" (.ofBytes (Capture.ofRecords .h4 interruptedRecords)),
    .granting, fun n ↦ (n + 5, n)⟩

theorem scan_live_eq_replayed_interruptedReads :
    (run .granting (scanPlan 0)).result = .ok () ∧
    interruptedRecords.map (·.data) = packetsRead interruptedReads ∧
    packetsRead interruptedReads = packetsSent interruptedReads ∧
    (liveScan.run liveSurroundings).result = .ok () ∧
    (replayedScan.run replayedSurroundings).result = .ok () ∧
    Effect.written .out (liveScan.run liveSurroundings).effects =
      Effect.written .out (replayedScan.run replayedSurroundings).effects ∧
    Effect.written .err (liveScan.run liveSurroundings).effects = "" ∧
    Effect.written .err (replayedScan.run replayedSurroundings).effects =
      "Malformed advertising report: event header needs 5 bytes " ++
        "but the event is 3 bytes long\n" := by
  have hsetup : (run .granting (scanPlan 0)).result = .ok () := by decide
  have hrecords : interruptedRecords.map (·.data) = packetsRead interruptedReads := by decide
  obtain ⟨-, hwhole, hscan⟩ := scan_live_eq_replayed hsetup interruptedReads
  have hsent : packetsRead interruptedReads = packetsSent interruptedReads := by
    refine hwhole fun bytes hbytes ↦ ?_
    simp only [interruptedReads, List.mem_cons, List.not_mem_nil, or_false, reduceCtorEq, false_or,
      Read.packet.injEq] at hbytes
    rcases hbytes with rfl | rfl | rfl | rfl <;> decide
  obtain ⟨hlive, hreplayed, hout, complaints, hcomplaints, -, herr', herr, -⟩ :=
    hscan interruptedRecords "-" liveScan replayedScan liveSurroundings replayedSurroundings
      hrecords rfl (by rw [replayedSurroundings]) rfl rfl
  rw [hcomplaints] at herr herr'
  refine ⟨hsetup, hrecords, hsent, hlive, hreplayed, hout, herr.trans ?_, herr'.trans ?_⟩
  · decide +kernel
  · decide +kernel

end BleBeacon
