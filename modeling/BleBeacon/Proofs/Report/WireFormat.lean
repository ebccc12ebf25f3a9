import Mathlib
import BleBeacon.Proofs.Report.Cursor

/-!
# The wire format of advertising report events

An event is a header of five bytes, as many reports as its last byte says, and anything behind them.
What the fields of a report mean is said here once, apart from how they are read.  The reports of an
event are read in their order as what they mean, and nothing else is read.
-/

namespace BleBeacon

/-- The bytes that stand for kinds of advertising. -/
inductive AdvertisingType.SentAs : AdvertisingType → UInt8 → Prop where
  | connectableUndirected : SentAs .connectableUndirected 0x00
  | connectableDirected : SentAs .connectableDirected 0x01
  | scannableUndirected : SentAs .scannableUndirected 0x02
  | nonConnectableUndirected : SentAs .nonConnectableUndirected 0x03
  | scanResponse : SentAs .scanResponse 0x04
  | other {code : UInt8} (h : 4 < code.toNat) : SentAs (.other code) code

theorem AdvertisingType.SentAs.code_eq {type : AdvertisingType} {code : UInt8}
    (h : type.SentAs code) : type.code = code := by
  cases h <;> rfl

theorem AdvertisingType.sentAs_iff {type : AdvertisingType} {code : UInt8} :
    type.SentAs code ↔ type = .ofCode code := by
  constructor
  · intro h
    cases h with
    | other h =>
      unfold ofCode
      split
      all_goals first | omega | rfl
    | _ => rfl
  · rintro rfl
    have hcode : code = UInt8.ofNat code.toNat := UInt8.ofNat_toNat.symm
    unfold ofCode
    split
    case h_6 =>
      refine .other ?_
      grind
    all_goals
      rename_i h
      rw [hcode, h]
      constructor

/-- The bytes that stand for kinds of addresses. -/
inductive AddressType.SentAs : AddressType → UInt8 → Prop where
  | publicDevice : SentAs .publicDevice 0x00
  | randomDevice : SentAs .randomDevice 0x01
  | publicIdentity : SentAs .publicIdentity 0x02
  | randomIdentity : SentAs .randomIdentity 0x03
  | other {code : UInt8} (h : 3 < code.toNat) : SentAs (.other code) code

theorem AddressType.SentAs.code_eq {type : AddressType} {code : UInt8} (h : type.SentAs code) :
    type.code = code := by
  cases h <;> rfl

theorem AddressType.sentAs_iff {type : AddressType} {code : UInt8} :
    type.SentAs code ↔ type = .ofCode code := by
  constructor
  · intro h
    cases h with
    | other h =>
      unfold ofCode
      split
      all_goals first | omega | rfl
    | _ => rfl
  · rintro rfl
    have hcode : code = UInt8.ofNat code.toNat := UInt8.ofNat_toNat.symm
    unfold ofCode
    split
    case h_5 =>
      refine .other ?_
      grind
    all_goals
      rename_i h
      rw [hcode, h]
      constructor

/-- A report as it is sent. -/
structure WireReport where
  eventType : UInt8
  addressType : UInt8
  /-- Least significant byte first. -/
  address : Octets 6
  payload : Bytes
  rssi : UInt8
  fits : payload.length ≤ 255

namespace WireReport

def bytes (w : WireReport) : Bytes :=
  w.eventType :: w.addressType :: (w.address.1 ++
    UInt8.ofNat w.payload.length :: (w.payload ++ [w.rssi]))

/-- What is meant by the fields of a report as it is sent. -/
structure Means (w : WireReport) (r : Report) : Prop where
  eventType : r.eventType.SentAs w.eventType
  addressType : r.addressType.SentAs w.addressType
  /-- The address is written with its most significant byte first, and sent the other way round. -/
  address : w.address.1 = r.address.bytes.reverse
  payload : w.payload = r.payload
  /-- Strengths from 128 on stand for negative ones. -/
  rssi : r.rssi.toInt = if w.rssi.toNat < 128 then (w.rssi.toNat : Int) else w.rssi.toNat - 256

theorem toInt_toInt8 (b : UInt8) :
    b.toInt8.toInt = if b.toNat < 128 then (b.toNat : Int) else b.toNat - 256 := by
  have hb := b.toNat_lt
  show b.toBitVec.toInt = _
  rw [BitVec.toInt_eq_toNat_cond]
  show (if 2 * b.toNat < 2 ^ 8 then (b.toNat : Int) else b.toNat - (2 ^ 8 : Nat)) = _
  split <;> split <;> omega

theorem means_iff {w : WireReport} {r : Report} : w.Means r ↔
    r = ⟨.ofCode w.eventType, .ofCode w.addressType, .ofWire w.address, w.payload,
      w.rssi.toInt8⟩ := by
  constructor
  · rintro ⟨heventType, haddressType, haddress, hpayload, hrssi⟩
    rcases r with ⟨eventType, addressType, ⟨octets⟩, payload, rssi⟩
    have hoctets : octets = w.address.reverse := by
      apply Subtype.ext
      show octets.1 = w.address.1.reverse
      rw [haddress]
      exact (List.reverse_reverse octets.1).symm
    have hsignal : rssi = w.rssi.toInt8 := by
      rw [← Int8.toInt_inj, toInt_toInt8]
      exact hrssi
    rw [← AdvertisingType.sentAs_iff.mp heventType, ← AddressType.sentAs_iff.mp haddressType,
      hpayload, DeviceAddress.ofWire, ← hoctets, ← hsignal]
  · rintro rfl
    refine ⟨AdvertisingType.sentAs_iff.mpr rfl, AddressType.sentAs_iff.mpr rfl, ?_, rfl,
      toInt_toInt8 w.rssi⟩
    exact (List.reverse_reverse w.address.1).symm

theorem existsUnique_means (w : WireReport) : ∃! r, w.Means r :=
  ⟨_, means_iff.mpr rfl, fun _ ↦ means_iff.mp⟩

/-- Reports of any kind can be sent, as long as a byte can count their payload and none of their
types has another name. -/
theorem exists_means_iff {r : Report} : (∃ w : WireReport, w.Means r) ↔
    (∃ code, r.eventType.SentAs code) ∧ (∃ code, r.addressType.SentAs code) ∧
      r.payload.length ≤ 255 := by
  constructor
  · rintro ⟨w, h⟩
    refine ⟨⟨_, h.eventType⟩, ⟨_, h.addressType⟩, ?_⟩
    rw [← h.payload]
    exact w.fits
  · rintro ⟨⟨eventType, heventType⟩, ⟨addressType, haddressType⟩, hfits⟩
    refine ⟨⟨eventType, addressType, r.address.octets.reverse, r.payload, r.rssi.toUInt8, hfits⟩,
      heventType, haddressType, rfl, rfl, ?_⟩
    rw [← toInt_toInt8, Int8.toInt8_toUInt8]

/-- No part of a report is lost when it is read. -/
theorem Means.wire_unique {w w' : WireReport} {r : Report} (h : w.Means r) (h' : w'.Means r) :
    w = w' := by
  rcases w with ⟨eventType, addressType, address, payload, rssi, fits⟩
  rcases w' with ⟨eventType', addressType', address', payload', rssi', fits'⟩
  have hevent : eventType = eventType' := h.eventType.code_eq.symm.trans h'.eventType.code_eq
  have htype : addressType = addressType' :=
    h.addressType.code_eq.symm.trans h'.addressType.code_eq
  have haddress : address = address' := Subtype.ext (h.address.trans h'.address.symm)
  have hpayload : payload = payload' := h.payload.trans h'.payload.symm
  have hrssi : rssi = rssi' := by
    have hsignal := h.rssi.symm.trans h'.rssi
    rw [← toInt_toInt8, ← toInt_toInt8, Int8.toInt_inj] at hsignal
    rw [← UInt8.toUInt8_toInt8 rssi, ← UInt8.toUInt8_toInt8 rssi', hsignal]
  subst hevent htype haddress hpayload hrssi
  rfl

end WireReport

/-! ## Reports -/

namespace EventCursor

/-- The six fields of a report are read one after the other, so its bytes are theirs joined. -/
theorem reads_report :
    Reads report fun r bytes ↦ ∃ w : WireReport, w.Means r ∧ bytes = w.bytes := by
  refine ((reads_byte .eventType).bind fun eventType ↦ (reads_byte .addressType).bind
    fun addressType ↦ (reads_take .address 6).bind fun address ↦ (reads_byte .dataLength).bind
    fun length ↦ (reads_take .payload length.toNat).bind fun payload ↦ (reads_byte .rssi).bind
    fun rssi ↦ Reads.pure (⟨.ofCode eventType, .ofCode addressType, .ofWire address, payload.1,
      rssi.toInt8⟩ : Report)).congr ?_
  intro r bytes
  constructor
  · rintro ⟨eventType, _, _, rfl, rfl, addressType, _, _, rfl, rfl, address, _, _, rfl, rfl, length,
      _, _, rfl, rfl, payload, _, _, rfl, rfl, rssi, _, _, rfl, rfl, rfl, rfl⟩
    have hfits : payload.1.length ≤ 255 := by
      have hlength := length.toNat_lt
      rw [payload.2]
      omega
    -- The byte in front of a payload says how long it is, and no other byte does.
    have hbyte : UInt8.ofNat payload.1.length = length := by rw [payload.2, UInt8.ofNat_toNat]
    refine ⟨⟨eventType, addressType, address, payload.1, rssi, hfits⟩,
      WireReport.means_iff.mpr rfl, ?_⟩
    change _ = eventType :: addressType :: (address.1 ++
      UInt8.ofNat payload.1.length :: (payload.1 ++ [rssi]))
    rw [hbyte]
    rfl
  · rintro ⟨w, hmeans, rfl⟩
    rw [WireReport.means_iff] at hmeans
    have hlength : (UInt8.ofNat w.payload.length).toNat = w.payload.length := by
      have hfits := w.fits
      rw [UInt8.toNat_ofNat']
      omega
    exact ⟨w.eventType, [w.eventType], _, rfl, rfl, w.addressType, [w.addressType], _, rfl, rfl,
      w.address, w.address.1, _, rfl, rfl, UInt8.ofNat w.payload.length, [_], _, rfl, rfl,
      ⟨w.payload, hlength.symm⟩, w.payload, _, rfl, rfl, w.rssi, [w.rssi], [], rfl, rfl, hmeans,
      rfl⟩

theorem reports_eq_ok_iff (c : EventCursor) (count : Nat) (reports : List Report) :
    c.reports count = .ok reports ↔ ∃ (wires : List WireReport) (tail : Bytes),
      c.rest = wires.flatMap WireReport.bytes ++ tail ∧ wires.length = count ∧
        List.Forall₂ WireReport.Means wires reports := by
  induction count generalizing c reports with
  | zero =>
    constructor
    · intro h
      cases h
      exact ⟨[], c.rest, rfl, rfl, .nil⟩
    · rintro ⟨wires, tail, -, hlength, hmeans⟩
      cases hmeans with
      | nil => rfl
      | cons => cases hlength
  | succ count ih =>
    rw [EventCursor.reports]
    constructor
    · intro h
      cases hfirst : c.report with
      | error e =>
        rw [hfirst] at h
        cases h
      | ok p =>
        rcases p with ⟨r, c'⟩
        rw [hfirst] at h
        rcases reads_report.sound hfirst with ⟨_, ⟨w, hw, rfl⟩, hrest, -⟩
        cases hothers : c'.reports count with
        | error e =>
          change (c'.reports count).bind _ = _ at h
          rw [hothers] at h
          cases h
        | ok others =>
          change (c'.reports count).bind _ = _ at h
          rw [hothers] at h
          cases h
          rcases (ih c' others).mp hothers with ⟨wires, tail, hbehind, hlength, hmeans⟩
          refine ⟨w :: wires, tail, ?_, congrArg (· + 1) hlength, .cons hw hmeans⟩
          rw [hrest, hbehind, List.flatMap_cons, List.append_assoc]
    · rintro ⟨wires, tail, hrest, hlength, hmeans⟩
      cases hmeans with
      | nil => cases hlength
      | @cons w r wires others hw hmeans =>
        rw [List.flatMap_cons, List.append_assoc] at hrest
        have hfirst : c.report = .ok (r, ⟨c.position + w.bytes.length,
            wires.flatMap WireReport.bytes ++ tail⟩) :=
          reads_report.complete ⟨w, hw, rfl⟩ ⟨hrest, rfl⟩
        have hothers := (ih ⟨c.position + w.bytes.length, wires.flatMap WireReport.bytes ++ tail⟩
          others).mpr ⟨wires, tail, rfl, Nat.succ.inj hlength, hmeans⟩
        rw [hfirst]
        change (EventCursor.reports _ count).bind _ = _
        rw [hothers]
        rfl

theorem overrun_of_reports {c : EventCursor} {count : Nat} {e : DecodeError}
    (h : c.reports count = .error e) : c.Overrun e := by
  induction count generalizing c with
  | zero => cases h
  | succ count ih =>
    rw [EventCursor.reports] at h
    cases hfirst : c.report with
    | error e' =>
      rw [hfirst] at h
      cases h
      exact reads_report.fails hfirst
    | ok p =>
      rcases p with ⟨r, c'⟩
      rw [hfirst] at h
      rcases reads_report.sound hfirst with ⟨front, -, hfollows⟩
      change (c'.reports count).bind _ = _ at h
      cases hothers : c'.reports count with
      | error e' =>
        rw [hothers] at h
        cases h
        exact hfollows.overrun (ih hothers)
      | ok others =>
        rw [hothers] at h
        cases h

end EventCursor

end BleBeacon
