import Mathlib
import BleBeacon.Proofs.Report.WireFormat

/-!
# Parsing events

Packets that are no advertising report events are told apart by their first four bytes.  Of the
others, those in the wire format are read and all that are cut short are errors.
-/

namespace BleBeacon

/-- Packets that are no advertising report events, as far as their bytes go. -/
def Foreign (packet : Bytes) : Prop :=
  packet.length < 2 ∨ packet.take 2 ≠ [0x04, 0x3E] ∨ ∃ sub, packet[3]? = some sub ∧ sub ≠ 0x02

namespace ReportSet

def header (set : ReportSet) : Bytes :=
  [set.packetType, set.eventCode, set.parameterLength, set.subeventCode, set.reportCount]

/-- The bytes of an event that are read: its header and the reports that it announces. -/
def CarriedBy (set : ReportSet) (consumed : Bytes) : Prop :=
  ∃ wires : List WireReport, consumed = set.header ++ wires.flatMap WireReport.bytes ∧
    wires.length = set.reportCount.toNat ∧ List.Forall₂ WireReport.Means wires set.reports

theorem CarriedBy.unique {set : ReportSet} {consumed consumed' : Bytes}
    (h : set.CarriedBy consumed) (h' : set.CarriedBy consumed') : consumed = consumed' := by
  rcases h with ⟨wires, rfl, -, hreports⟩
  rcases h' with ⟨wires', rfl, -, hreports'⟩
  have hunique : Relator.LeftUnique WireReport.Means := fun _ _ _ ↦ WireReport.Means.wire_unique
  rw [List.left_unique_forall₂' hunique hreports hreports']

end ReportSet

/-- The event that announces these reports and carries them, with nothing behind them. -/
def WireReport.event (parameterLength : UInt8) (wires : List WireReport) : Bytes :=
  [0x04, 0x3E, parameterLength, 0x02, UInt8.ofNat wires.length] ++ wires.flatMap WireReport.bytes

/-! ## The first bytes -/

theorem foreign_iff_metaSubevent? (packet : Bytes) : Foreign packet ↔
    ∀ subevent, metaSubevent? packet = some subevent → subevent.any (· ≠ advertisingReport) := by
  match packet with
  | [] => simp [Foreign, metaSubevent?]
  | [_] => simp [Foreign, metaSubevent?]
  | type :: code :: rest =>
    have hthird : (type :: code :: rest)[3]? = rest[1]? := rfl
    rw [Foreign, metaSubevent?, hthird]
    by_cases hmeta : type = eventPacket ∧ code = leMetaEvent
    · rcases hmeta with ⟨rfl, rfl⟩
      rw [if_pos ⟨rfl, rfl⟩]
      cases rest[1]? with
      | none => simp [eventPacket, leMetaEvent]
      | some sub =>
        have hany : (some sub).any (· ≠ advertisingReport) ↔ sub ≠ advertisingReport :=
          decide_eq_true_iff
        simp only [Option.some.injEq, forall_eq', hany]
        simp [eventPacket, leMetaEvent, advertisingReport]
    · rw [if_neg hmeta]
      refine ⟨fun _ _ hnone ↦ (by cases hnone), fun _ ↦ .inr (.inl ?_)⟩
      intro htake
      apply hmeta
      simpa [eventPacket, leMetaEvent] using htake

theorem parseReports_foreign {packet : Bytes} (h : Foreign packet) :
    parseReports packet = .ok none := by
  rw [foreign_iff_metaSubevent?] at h
  rw [parseReports]
  split
  · rfl
  · rename_i subevent hsubevent
    rw [if_pos (h subevent hsubevent)]

theorem metaSubevent?_of_not_foreign {packet : Bytes} (h : ¬ Foreign packet) :
    ∃ subevent, metaSubevent? packet = some subevent ∧
      ¬ subevent.any (· ≠ advertisingReport) := by
  by_contra hnone
  refine h ((foreign_iff_metaSubevent? packet).mpr fun subevent hsubevent ↦ ?_)
  by_contra hadvertising
  exact hnone ⟨subevent, hsubevent, hadvertising⟩

theorem parseReports_short {packet : Bytes} (h : ¬ Foreign packet) (hshort : packet.length < 5) :
    parseReports packet = .error (.malformedReport .header 5 packet.length) := by
  rcases metaSubevent?_of_not_foreign h with ⟨subevent, hsubevent, hadvertising⟩
  rw [parseReports, hsubevent]
  change (if _ then _ else _) = _
  rw [if_neg hadvertising, EventCursor.take, dif_neg (Nat.not_le.mpr hshort)]
  change Except.error (DecodeError.malformedReport .header (0 + 5) (0 + packet.length)) = _
  rw [Nat.zero_add, Nat.zero_add]

theorem parseReports_cons {type code length sub count : UInt8} {rest : Bytes}
    (h : ¬ Foreign (type :: code :: length :: sub :: count :: rest)) :
    parseReports (type :: code :: length :: sub :: count :: rest) =
      ((EventCursor.mk 5 rest).reports count.toNat).map fun reports ↦
        some ⟨type, code, length, sub, count, reports⟩ := by
  rcases metaSubevent?_of_not_foreign h with ⟨subevent, hsubevent, hadvertising⟩
  rw [parseReports, hsubevent]
  change (if _ then _ else _) = _
  rw [if_neg hadvertising, EventCursor.take, dif_pos (by simp)]
  rfl

theorem exists_header {packet : Bytes} (h : 5 ≤ packet.length) :
    ∃ type code length sub count rest, packet = type :: code :: length :: sub :: count :: rest := by
  match packet, h with
  | type :: code :: length :: sub :: count :: rest, _ =>
    exact ⟨type, code, length, sub, count, rest, rfl⟩

theorem not_foreign_append {packet : Bytes} (h : ¬ Foreign packet) (hlength : 4 ≤ packet.length)
    (tail : Bytes) : ¬ Foreign (packet ++ tail) := by
  intro hforeign
  apply h
  rw [Foreign, List.length_append, List.take_append_of_le_length (by omega),
    List.getElem?_append_left (by omega)] at hforeign
  rcases hforeign with hshort | hstart | hsubevent
  · omega
  · exact .inr (.inl hstart)
  · exact .inr (.inr hsubevent)

theorem not_foreign_take {packet : Bytes} (h : ¬ Foreign packet) {n : Nat} (hn : 2 ≤ n) :
    ¬ Foreign (packet.take n) := by
  intro hforeign
  apply h
  rcases hforeign with hshort | hstart | ⟨sub, hsub, hother⟩
  · rw [List.length_take] at hshort
    exact .inl (by omega)
  · rw [List.take_take, Nat.min_eq_left hn] at hstart
    exact .inr (.inl hstart)
  · -- A byte that is still there was there before.
    rw [List.getElem?_take] at hsub
    split at hsub
    · exact .inr (.inr ⟨sub, hsub, hother⟩)
    · cases hsub

/-! ## Outcomes -/

/-- What becomes of a packet, and when. -/
inductive ParseOutcome (packet : Bytes) : Except DecodeError (Option ReportSet) → Prop where
  | foreign (h : Foreign packet) : ParseOutcome packet (.ok none)
  | parsed {set : ReportSet} {consumed tail : Bytes} (h : ¬ Foreign packet)
      (hpacket : packet = consumed ++ tail) (hcarried : set.CarriedBy consumed) :
      ParseOutcome packet (.ok (some set))
  | malformed (h : ¬ Foreign packet) (field : ReportField) (needed : Nat)
      (hneeded : packet.length < needed) :
      ParseOutcome packet (.error (.malformedReport field needed packet.length))

theorem outcome_parseReports (packet : Bytes) : ParseOutcome packet (parseReports packet) := by
  by_cases hforeign : Foreign packet
  · rw [parseReports_foreign hforeign]
    exact .foreign hforeign
  by_cases hshort : packet.length < 5
  · rw [parseReports_short hforeign hshort]
    exact .malformed hforeign .header 5 hshort
  rcases exists_header (Nat.not_lt.mp hshort) with ⟨type, code, length, sub, count, rest, rfl⟩
  rw [parseReports_cons hforeign]
  cases hreports : (EventCursor.mk 5 rest).reports count.toNat with
  | error e =>
    -- The cursor counts from the start of the packet, so it knows how long that is.
    have htotal : (EventCursor.mk 5 rest).total =
        (type :: code :: length :: sub :: count :: rest).length := by
      simp only [EventCursor.total, List.length_cons]
      omega
    rcases EventCursor.overrun_of_reports hreports with ⟨field, needed, rfl, hneeded⟩
    rw [htotal] at hneeded ⊢
    exact .malformed hforeign field needed hneeded
  | ok reports =>
    obtain ⟨wires, tail, hrest, hcount, hread⟩ :=
      (EventCursor.reports_eq_ok_iff _ _ _).mp hreports
    have hpacket : type :: code :: length :: sub :: count :: rest =
        ([type, code, length, sub, count] ++ wires.flatMap WireReport.bytes) ++ tail := by
      rw [List.append_assoc, ← hrest]
      rfl
    exact .parsed hforeign hpacket ⟨wires, rfl, hcount, hread⟩

theorem parseReports_eq_none_iff (packet : Bytes) :
    parseReports packet = .ok none ↔ Foreign packet := by
  refine ⟨fun h ↦ ?_, parseReports_foreign⟩
  have houtcome := outcome_parseReports packet
  rw [h] at houtcome
  cases houtcome with
  | foreign hforeign => exact hforeign

theorem parseReports_eq_some_iff (packet : Bytes) (set : ReportSet) :
    parseReports packet = .ok (some set) ↔
      ¬ Foreign packet ∧ ∃ consumed tail, packet = consumed ++ tail ∧ set.CarriedBy consumed := by
  constructor
  · intro h
    have houtcome := outcome_parseReports packet
    rw [h] at houtcome
    cases houtcome with
    | parsed hmine hpacket hcarried => exact ⟨hmine, _, _, hpacket, hcarried⟩
  · rintro ⟨hmine, consumed, tail, rfl, wires, rfl, hcount, hread⟩
    have hreports : (EventCursor.mk 5 (wires.flatMap WireReport.bytes ++ tail)).reports
        set.reportCount.toNat = .ok set.reports :=
      (EventCursor.reports_eq_ok_iff _ _ _).mpr ⟨wires, tail, rfl, hcount, hread⟩
    rw [ReportSet.header, List.append_assoc] at hmine ⊢
    refine (parseReports_cons hmine).trans ?_
    change ((EventCursor.mk 5 (wires.flatMap WireReport.bytes ++ tail)).reports _).map _ = _
    rw [hreports]
    rfl

/-- What is neither foreign nor in the wire format is an error. -/
theorem exists_error_of_parseReports {packet : Bytes} (hmine : ¬ Foreign packet)
    (hnone : ∀ set, parseReports packet ≠ .ok (some set)) :
    ∃ field needed, packet.length < needed ∧
      parseReports packet = .error (.malformedReport field needed packet.length) := by
  have houtcome := outcome_parseReports packet
  generalize parseReports packet = result at hnone houtcome
  cases houtcome with
  | foreign hforeign => exact absurd hforeign hmine
  | parsed => exact absurd rfl (hnone _)
  | malformed _ field needed hneeded => exact ⟨field, needed, hneeded, rfl⟩

/-! ## Whole events -/

theorem ReportSet.CarriedBy.length {set : ReportSet} {consumed : Bytes}
    (h : set.CarriedBy consumed) : 5 ≤ consumed.length := by
  rcases h with ⟨wires, rfl, -⟩
  rw [List.length_append, show set.header.length = 5 from rfl]
  exact Nat.le_add_right _ _

theorem parseReports_event (parameterLength : UInt8) {wires : List WireReport}
    {reports : List Report} (hcount : wires.length ≤ 255)
    (hmeans : List.Forall₂ WireReport.Means wires reports) :
    parseReports (WireReport.event parameterLength wires) =
      .ok (some ⟨0x04, 0x3E, parameterLength, 0x02, UInt8.ofNat wires.length, reports⟩) := by
  rw [parseReports_eq_some_iff]
  refine ⟨?_, _, [], (List.append_nil _).symm, wires, rfl, ?_, hmeans⟩
  · rintro (hshort | hstart | ⟨sub, hsub, hother⟩)
    · exact absurd hshort (by simp [WireReport.event])
    · exact hstart rfl
    · cases hsub
      exact hother rfl
  · rw [UInt8.toNat_ofNat']
    omega

theorem parseReports_append {packet : Bytes} {set : ReportSet}
    (h : parseReports packet = .ok (some set)) (tail : Bytes) :
    parseReports (packet ++ tail) = .ok (some set) := by
  rw [parseReports_eq_some_iff] at h ⊢
  rcases h with ⟨hmine, consumed, behind, rfl, hcarried⟩
  have hlength := hcarried.length
  refine ⟨not_foreign_append hmine ?_ tail, consumed, behind ++ tail, ?_, hcarried⟩
  · rw [List.length_append]
    omega
  · rw [List.append_assoc]

-- Otherwise the rest of the event would be read as the tail of a shorter one.
theorem parseReports_take {consumed tail : Bytes} {set : ReportSet}
    (h : parseReports (consumed ++ tail) = .ok (some set)) (hcarried : set.CarriedBy consumed)
    {n : Nat} (hn : 2 ≤ n) (hcut : n < consumed.length) :
    ∃ field needed, n < needed ∧
      parseReports ((consumed ++ tail).take n) = .error (.malformedReport field needed n) := by
  have hlength : ((consumed ++ tail).take n).length = n := by
    rw [List.length_take, List.length_append]
    omega
  have hmine := ((parseReports_eq_some_iff _ _).mp h).1
  have hnone : ∀ other, parseReports ((consumed ++ tail).take n) ≠ .ok (some other) := by
    intro other hother
    rcases (parseReports_eq_some_iff _ _).mp hother with ⟨-, shorter, behind, htake, hshorter⟩
    have hwhole := parseReports_append hother ((consumed ++ tail).drop n)
    rw [List.take_append_drop, h] at hwhole
    cases hwhole
    rw [hshorter.unique hcarried] at htake
    have hconsumed := congrArg List.length htake
    rw [hlength, List.length_append] at hconsumed
    omega
  have herror := exists_error_of_parseReports (not_foreign_take hmine hn) hnone
  rw [hlength] at herror
  exact herror

/-- Parsing accepts the wire format and nothing else, and loses nothing of it.  So what was written
is read back, bytes behind an event do not matter, and an event that is cut is an error. -/
theorem parseReports_reads_wireFormat (packet : Bytes) :
    (parseReports packet = .ok none ↔ Foreign packet) ∧
    (∀ set, parseReports packet = .ok (some set) ↔
      ¬ Foreign packet ∧ ∃ consumed tail, packet = consumed ++ tail ∧ set.CarriedBy consumed) ∧
    (¬ Foreign packet →
      (∀ (set : ReportSet) consumed tail, packet = consumed ++ tail → ¬ set.CarriedBy consumed) →
      ∃ field needed, packet.length < needed ∧
        parseReports packet = .error (.malformedReport field needed packet.length)) ∧
    (∀ w : WireReport, ∃! r, w.Means r) ∧
    (∀ (w w' : WireReport) (r : Report), w.Means r → w'.Means r → w = w') ∧
    (∀ r : Report, (∃ w : WireReport, w.Means r) ↔
      (∃ code, r.eventType.SentAs code) ∧ (∃ code, r.addressType.SentAs code) ∧
        r.payload.length ≤ 255) ∧
    (∀ parameterLength wires reports, wires.length ≤ 255 →
      List.Forall₂ WireReport.Means wires reports →
      packet = WireReport.event parameterLength wires →
      parseReports packet = .ok (some ⟨0x04, 0x3E, parameterLength, 0x02,
        UInt8.ofNat wires.length, reports⟩)) ∧
    (∀ set tail, parseReports packet = .ok (some set) →
      parseReports (packet ++ tail) = .ok (some set)) ∧
    (∀ set consumed tail n, parseReports packet = .ok (some set) → packet = consumed ++ tail →
      set.CarriedBy consumed → 2 ≤ n → n < consumed.length →
      ∃ field needed, n < needed ∧
        parseReports (packet.take n) = .error (.malformedReport field needed n)) := by
  refine ⟨parseReports_eq_none_iff packet, parseReports_eq_some_iff packet, ?_,
    WireReport.existsUnique_means, fun _ _ _ ↦ WireReport.Means.wire_unique,
    fun _ ↦ WireReport.exists_means_iff, ?_, fun set tail h ↦ parseReports_append h tail, ?_⟩
  · intro hmine hformat
    have hnone : ∀ set, parseReports packet ≠ .ok (some set) := by
      intro set hset
      rcases (parseReports_eq_some_iff _ _).mp hset with ⟨-, consumed, tail, hpacket, hcarried⟩
      exact hformat set consumed tail hpacket hcarried
    exact exists_error_of_parseReports hmine hnone
  · intro parameterLength wires reports hcount hmeans hpacket
    rw [hpacket]
    exact parseReports_event parameterLength hcount hmeans
  · intro set consumed tail n hset hpacket hcarried hn hcut
    rw [hpacket] at hset ⊢
    exact parseReports_take hset hcarried hn hcut

/-- Two reports of different kinds, as they are sent. -/
def mixedWires : List WireReport :=
  [⟨0x03, 0x01, ⟨[0x66, 0x55, 0x44, 0x33, 0x22, 0x11], rfl⟩, [0x02, 0x01, 0x06], 0xC5, by decide⟩,
    ⟨0x04, 0xFF, ⟨[0x0F, 0x0E, 0x0D, 0x0C, 0x0B, 0x0A], rfl⟩, [], 0x14, by decide⟩]

/-- What they mean: an address of `11:22:33:44:55:66` and one of `0A:0B:0C:0D:0E:0F`. -/
def mixedReports : List Report :=
  [⟨.nonConnectableUndirected, .randomDevice, ⟨⟨[0x11, 0x22, 0x33, 0x44, 0x55, 0x66], rfl⟩⟩,
      [0x02, 0x01, 0x06], -59⟩,
    ⟨.scanResponse, .other 0xFF, ⟨⟨[0x0A, 0x0B, 0x0C, 0x0D, 0x0E, 0x0F], rfl⟩⟩, [], 20⟩]

def mixedEvent : Bytes :=
  [0x04, 0x3E, 0x19, 0x02, 0x02,
    0x03, 0x01, 0x66, 0x55, 0x44, 0x33, 0x22, 0x11, 0x03, 0x02, 0x01, 0x06, 0xC5,
    0x04, 0xFF, 0x0F, 0x0E, 0x0D, 0x0C, 0x0B, 0x0A, 0x00, 0x14]

theorem mixedWires_means : List.Forall₂ WireReport.Means mixedWires mixedReports :=
  .cons ⟨.nonConnectableUndirected, .randomDevice, rfl, rfl, by decide⟩
    (.cons ⟨.scanResponse, .other (by decide), rfl, rfl, by decide⟩ .nil)

theorem parseReports_reads_wireFormat_mixedEvent :
    parseReports mixedEvent = .ok (some ⟨0x04, 0x3E, 0x19, 0x02, 0x02, mixedReports⟩) ∧
    parseReports (mixedEvent ++ [0xAB]) =
      .ok (some ⟨0x04, 0x3E, 0x19, 0x02, 0x02, mixedReports⟩) ∧
    (∃ field needed, 27 < needed ∧
      parseReports (mixedEvent.take 27) = .error (.malformedReport field needed 27)) ∧
    ∃ field needed, 3 < needed ∧
      parseReports [0x04, 0x3E, 0x19] = .error (.malformedReport field needed 3) := by
  obtain ⟨-, -, -, -, -, -, hevent, happend, hcut⟩ := parseReports_reads_wireFormat mixedEvent
  have hparsed := hevent 0x19 mixedWires mixedReports (by decide) mixedWires_means rfl
  refine ⟨hparsed, happend _ [0xAB] hparsed, hcut _ mixedEvent [] 27 hparsed
    (List.append_nil _).symm ⟨mixedWires, rfl, rfl, mixedWires_means⟩ (by decide) (by decide), ?_⟩
  obtain ⟨-, -, hmalformed, -⟩ := parseReports_reads_wireFormat [0x04, 0x3E, 0x19]
  refine hmalformed (by simp [Foreign]) ?_
  intro set consumed tail hpacket hcarried
  have hlength := congrArg List.length hpacket
  have henough := hcarried.length
  rw [List.length_append, show [(0x04 : UInt8), 0x3E, 0x19].length = 3 from rfl] at hlength
  omega

end BleBeacon
