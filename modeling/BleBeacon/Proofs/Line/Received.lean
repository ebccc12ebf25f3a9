import Mathlib
import BleBeacon.Proofs.Beacon.Resending
import BleBeacon.Proofs.Line.PlainText
import BleBeacon.Proofs.Scan.Sightings

/-!
# Lines of what is on the air

The line of a received beacon is one line, whatever was sent, and tells everything but where the
scheme of a URL ends.
-/

namespace BleBeacon

open Line

/-! ## What a line is made of -/

/-- The texts that a frame puts into a line. -/
def Frame.texts : Frame → List String
  | .eddystone (.uid namespaceId instanceId) => [namespaceId, instanceId]
  | .eddystone (.url scheme body) => [scheme.text ++ body]
  | .eddystone _ => []
  | .iBeacon beacon => [beacon.uuid.text]

namespace Observation

theorem plain_of_mem_tags {b : Beacon} {tag : String × String} (h : tag ∈ tags b) :
    Plain tag.1 ∧ Plain tag.2 := by
  have hkind : Plain b.kind.name := by cases b.kind <;> decide
  have htype : ∀ type : FrameType, Plain type.name := by
    intro type
    cases type <;> decide
  rcases b with ⟨flags, txPower, rssi, address, frame⟩
  simp only [tags, List.mem_append, List.mem_singleton] at h
  rcases h with (haddress | rfl) | hframe
  · cases address with
    | none => cases haddress
    | some a =>
      rw [List.mem_singleton.mp haddress]
      exact ⟨show Plain "address" by decide, a.plain_text⟩
  · exact ⟨show Plain "kind" by decide, hkind⟩
  · cases frame with
    | iBeacon beacon => cases hframe
    | eddystone frame =>
      rw [List.mem_singleton.mp hframe]
      exact ⟨show Plain "frame" by decide, htype frame.type⟩

/-- A field whose key ends nothing, and whose value is a number or one of some texts. -/
def FieldOf (texts : List String) (field : String × FieldValue) : Prop :=
  Plain field.1 ∧ ((∃ n, field.2 = .integer n) ∨ ∃ s ∈ texts, field.2 = .text s)

theorem fieldOf_of_mem_frameFields {frame : Frame} {field : String × FieldValue}
    (h : field ∈ frameFields frame) : FieldOf frame.texts field := by
  cases frame with
  | iBeacon beacon =>
    simp only [frameFields, List.mem_cons, List.not_mem_nil, or_false] at h
    rcases h with rfl | rfl | rfl
    · exact ⟨show Plain "uuid" by decide, .inr ⟨_, List.mem_cons_self, rfl⟩⟩
    · exact ⟨show Plain "major" by decide, .inl ⟨_, rfl⟩⟩
    · exact ⟨show Plain "minor" by decide, .inl ⟨_, rfl⟩⟩
  | eddystone frame =>
    cases frame with
    | uid namespaceId instanceId =>
      rcases List.mem_pair.mp h with rfl | rfl
      · exact ⟨show Plain "namespace" by decide, .inr ⟨_, List.mem_cons_self, rfl⟩⟩
      · exact ⟨show Plain "instance" by decide,
          .inr ⟨_, List.mem_cons_of_mem _ List.mem_cons_self, rfl⟩⟩
    | url scheme body =>
      rw [List.mem_singleton.mp h]
      exact ⟨show Plain "url" by decide, .inr ⟨_, List.mem_cons_self, rfl⟩⟩
    | tlm => cases h
    | eid => cases h
    | reserved => cases h

theorem fieldOf_of_mem_fields {b : Beacon} {field : String × FieldValue} (h : field ∈ fields b) :
    FieldOf b.frame.texts field := by
  rcases b with ⟨flags, txPower, rssi, address, frame⟩
  rw [fields, List.mem_append, List.mem_append] at h
  rcases h with (hrssi | hfixed) | hframe
  · cases rssi with
    | none => cases hrssi
    | some r =>
      rw [List.mem_singleton.mp hrssi]
      exact ⟨show Plain "rssi" by decide, .inl ⟨_, rfl⟩⟩
  · rcases List.mem_pair.mp hfixed with rfl | rfl
    · exact ⟨show Plain "tx_power" by decide, .inl ⟨_, rfl⟩⟩
    · exact ⟨show Plain "flags" by decide, .inl ⟨_, rfl⟩⟩
  · exact fieldOf_of_mem_frameFields hframe

/-- Whatever a beacon carries, the tags and fields of its point can be found in the text. -/
theorem delimited_point (measurement : String) (o : Observation) :
    (o.point measurement).Delimited where
  tags := by
    intro tag htag
    obtain ⟨hkey, hvalue⟩ := plain_of_mem_tags (KeyMap.mem_of_mem_ofList htag)
    exact ⟨hkey.not_mem rfl, hvalue.unseparated⟩
  fields := by
    intro field hfield
    obtain ⟨hkey, ⟨n, hvalue⟩ | ⟨s, -, hvalue⟩⟩ :=
      fieldOf_of_mem_fields (KeyMap.mem_of_mem_ofList hfield)
    · exact ⟨hkey.not_mem rfl, by rw [hvalue]; trivial⟩
    · exact ⟨hkey.not_mem rfl, by rw [hvalue]; trivial⟩

theorem oneLine_behind_point (measurement : String) {o : Observation}
    (h : ∀ s ∈ o.beacon.frame.texts, OneLine s.toList) :
    OneLine (o.point measurement).behind := by
  refine Point.oneLine_behind (fun tag htag ↦ ?_) fun field hfield ↦ ?_
  · obtain ⟨hkey, hvalue⟩ := plain_of_mem_tags (KeyMap.mem_of_mem_ofList htag)
    exact ⟨hkey.oneLine, hvalue.oneLine⟩
  · obtain ⟨hkey, hvalue⟩ := fieldOf_of_mem_fields (KeyMap.mem_of_mem_ofList hfield)
    refine ⟨hkey.oneLine, ?_⟩
    rcases hvalue with ⟨n, hvalue⟩ | ⟨s, hs, hvalue⟩ <;> rw [hvalue]
    · exact oneLine_render_integer n
    · exact oneLine_quote (h s hs)

end Observation

/-! ## What a line tells -/

theorem BeaconKind.name_injective : Function.Injective BeaconKind.name := by
  intro kind kind'
  cases kind <;> cases kind' <;> decide

theorem FrameType.name_injective : Function.Injective FrameType.name := by
  intro type type'
  cases type <;> cases type' <;> decide

namespace Frame

/-- Frames that are equal, but for the place at which the scheme of a URL ends. -/
def Agrees : Frame → Frame → Prop
  | .eddystone (.url scheme body), .eddystone (.url scheme' body') =>
    scheme.text ++ body = scheme'.text ++ body'
  | frame, frame' => frame = frame'

/-- The type of an Eddystone frame.  The other format has one kind of frame only. -/
def type? : Frame → Option FrameType
  | .eddystone frame => some frame.type
  | .iBeacon _ => none

theorem type?_eq_of_innerTags_eq {f f' : Frame} (h : f.innerTags = f'.innerTags) :
    f.type? = f'.type? := by
  cases f with
  | iBeacon beacon =>
    cases f' with
    | iBeacon beacon' => rfl
    | eddystone frame' => cases h
  | eddystone frame =>
    cases f' with
    | iBeacon beacon' => cases h
    | eddystone frame' =>
      exact congrArg some (FrameType.name_injective (Prod.mk.inj (List.singleton_inj.mp h)).2)

theorem length_innerFields_eq {f f' : Frame} (h : f.type? = f'.type?) :
    f.innerFields.length = f'.innerFields.length := by
  rcases f with (_ | _ | _ | _ | _) | _ <;> rcases f' with (_ | _ | _ | _ | _) | _ <;>
    first | rfl | cases h

theorem agrees_of_fields_eq {f f' : Frame} (htype : f.type? = f'.type?)
    (hinner : f.innerFields = f'.innerFields) (hlast : f.lastFields = f'.lastFields) :
    f.Agrees f' := by
  cases f with
  | iBeacon beacon =>
    cases f' with
    | eddystone frame' => cases htype
    | iBeacon beacon' =>
      rcases beacon with ⟨uuid, major, minor⟩
      rcases beacon' with ⟨uuid', major', minor'⟩
      simp only [innerFields, lastFields, List.cons.injEq, Prod.mk.injEq, FieldValue.integer.injEq,
        FieldValue.text.injEq, Int.ofNat_inj, UInt16.toNat_inj, true_and, and_true] at hinner hlast
      rw [hinner.1, hinner.2, Uuid.text_injective hlast]
      rfl
  | eddystone frame =>
    cases f' with
    | iBeacon beacon' => cases htype
    | eddystone frame' =>
      cases frame with
      | uid namespaceId instanceId =>
        cases frame' with
        | uid namespaceId' instanceId' =>
          simp only [innerFields, List.cons.injEq, Prod.mk.injEq, FieldValue.text.injEq, true_and,
            and_true] at hinner
          rw [hinner.1, hinner.2]
          rfl
        | _ => cases htype
      | url scheme body =>
        cases frame' with
        | url scheme' body' =>
          simp only [lastFields, List.cons.injEq, Prod.mk.injEq, FieldValue.text.injEq, true_and,
            and_true] at hlast
          exact hlast
        | _ => cases htype
      | tlm => cases frame' <;> first | rfl | cases htype
      | eid => cases frame' <;> first | rfl | cases htype
      | reserved => cases frame' <;> first | rfl | cases htype

end Frame

/-- Beacons that are equal, but for the place at which the scheme of a URL ends. -/
structure Beacon.Alike (b b' : Beacon) : Prop where
  address : b.address = b'.address
  rssi : b.rssi = b'.rssi
  kind : b.kind = b'.kind
  flags : b.flags = b'.flags
  txPower : b.txPower = b'.txPower
  frame : b.frame.Agrees b'.frame

namespace Observation

theorem alike_of_entries_eq {b b' : Beacon} {a a' : DeviceAddress} {rssi rssi' : Int8}
    (haddress : b.address = some a) (haddress' : b'.address = some a') (hrssi : b.rssi = some rssi)
    (hrssi' : b'.rssi = some rssi') (htags : KeyMap.ofList (tags b) = KeyMap.ofList (tags b'))
    (hfields : KeyMap.ofList (fields b) = KeyMap.ofList (fields b')) : b.Alike b' := by
  have htagEntries := congrArg KeyMap.entries htags
  rw [entries_tags haddress, entries_tags haddress'] at htagEntries
  obtain ⟨htext, hbehind⟩ := List.cons.inj htagEntries
  obtain ⟨hinnerTags, hkind⟩ := List.append_inj' hbehind rfl
  have htype := Frame.type?_eq_of_innerTags_eq hinnerTags
  have hfieldEntries := congrArg KeyMap.entries hfields
  rw [entries_fields hrssi, entries_fields hrssi'] at hfieldEntries
  obtain ⟨hflags, hmore⟩ := List.cons.inj hfieldEntries
  obtain ⟨hinner, hmore⟩ := List.append_inj hmore (Frame.length_innerFields_eq htype)
  obtain ⟨hrssiField, hmore⟩ := List.cons.inj hmore
  obtain ⟨hpower, hlast⟩ := List.cons.inj hmore
  simp only [Prod.mk.injEq, FieldValue.integer.injEq, Int.ofNat_inj, UInt8.toNat_inj,
    Int8.toInt_inj, true_and] at htext hflags hrssiField hpower
  refine ⟨?_, ?_, ?_, ?_, hpower, Frame.agrees_of_fields_eq htype hinner hlast⟩
  · rw [haddress, haddress', DeviceAddress.chars_injective (String.ofList_injective htext)]
  · rw [hrssi, hrssi', hrssiField]
  · exact BeaconKind.name_injective (Prod.mk.inj (List.singleton_inj.mp hkind)).2
  · rw [← AdFlags.ofByte_toByte b.flags, hflags, AdFlags.ofByte_toByte]

end Observation

/-! ## Received beacons -/

/-- Whatever bytes were sent, no text that is read from them holds a line break. -/
theorem oneLine_texts_of_recognize {kind : BeaconKind} {payload : Bytes} {b : Beacon}
    (h : kind.recognize payload = .ok (some b)) : ∀ s ∈ b.frame.texts, OneLine s.toList := by
  cases hframe : b.frame with
  | iBeacon beacon => exact List.forall_mem_singleton.mpr beacon.uuid.plain_text.oneLine
  | eddystone frame =>
    obtain ⟨-, type, -, rest, -, -, -, hdecode⟩ := exists_decodeFrame_of_recognize h hframe
    cases frame with
    | uid namespaceId instanceId =>
      obtain ⟨high, low, -, -, rfl, rfl⟩ := decodeFrame_eq_uid hdecode
      exact List.forall_mem_cons.mpr ⟨(Hex.plain_encode high).oneLine,
        List.forall_mem_singleton.mpr (Hex.plain_encode low).oneLine⟩
    | url scheme body =>
      obtain ⟨-, code, sent, -, -, rfl⟩ := decodeFrame_eq_url hdecode
      refine List.forall_mem_singleton.mpr ?_
      rw [String.toList_append, oneLine_append]
      exact ⟨scheme.oneLine_text, Url.oneLine_decode sent⟩
    | tlm => exact List.forall_mem_nil _
    | eid => exact List.forall_mem_nil _
    | reserved => exact List.forall_mem_nil _

theorem Batch.received_of_mem {kind : BeaconKind} {set : ReportSet} {b : Beacon}
    (h : b ∈ (Batch.ofSet kind set).value.beacons) :
    ∃ a rssi, b.address = some a ∧ b.rssi = some rssi ∧
      ∀ s ∈ b.frame.texts, OneLine s.toList := by
  rw [show (Batch.ofSet kind set).value = Batch.ofReports kind set.reports from rfl,
    Batch.beacons_ofReports] at h
  obtain ⟨r, -, hbeacon⟩ := List.mem_filterMap.mp h
  rw [Report.beacon?] at hbeacon
  split at hbeacon
  · rename_i found hfound
    have htexts := oneLine_texts_of_recognize hfound
    cases hbeacon
    exact ⟨r.address, r.rssi, rfl, rfl, htexts⟩
  · cases hbeacon

namespace Observation

/-- Behind the measurement, the line of a received beacon goes on without a line break.  Beacons with
one line are alike, and no point whose names can be found has other tags or fields in it. -/
theorem line_of_mem_beacons {measurement : String} {kind kind' : BeaconKind}
    {set set' : ReportSet} {b b' : Beacon} {time time' : Int}
    (hb : b ∈ (Batch.ofSet kind set).value.beacons)
    (hb' : b' ∈ (Batch.ofSet kind' set').value.beacons) :
    (∃ behind, line measurement ⟨b, time⟩ = measurement ++ behind ∧ OneLine behind.toList) ∧
    (line measurement ⟨b, time⟩ = line measurement ⟨b', time'⟩ →
      b.Alike b' ∧ (0 ≤ time → 0 ≤ time' → time = time')) ∧
    (∀ p : Point, p.Delimited → p.measurement = measurement →
      p.render = line measurement ⟨b, time⟩ →
      p.tags = .ofList (tags b) ∧ p.fields = .ofList (fields b) ∧
        p.shownTime = (point measurement ⟨b, time⟩).shownTime) := by
  obtain ⟨a, rssi, haddress, hrssi, htexts⟩ := Batch.received_of_mem hb
  obtain ⟨a', rssi', haddress', hrssi', -⟩ := Batch.received_of_mem hb'
  refine ⟨⟨String.ofList (point measurement ⟨b, time⟩).behind, ?_, ?_⟩, ?_, ?_⟩
  · rw [← String.toList_inj, String.toList_append, String.toList_ofList]
    exact Point.toList_render _
  · rw [String.toList_ofList]
    exact oneLine_behind_point measurement htexts
  · intro h
    obtain ⟨htags, hfields, htime⟩ := Point.eq_of_render_eq
      (delimited_point measurement ⟨b, time⟩) (delimited_point measurement ⟨b', time'⟩) rfl h
    refine ⟨alike_of_entries_eq haddress haddress' hrssi hrssi' htags hfields, ?_⟩
    intro hpast hpast'
    simpa [point, Point.shownTime, Option.filter, hpast, hpast'] using htime
  · intro p hp hmeasurement h
    exact Point.eq_of_render_eq hp (delimited_point measurement _) hmeasurement h

def forgingReport (payload : Bytes) : Report :=
  ⟨.nonConnectableUndirected, .publicDevice, ⟨[0x00, 0x1A, 0x7D, 0xDA, 0x71, 0x13], rfl⟩, payload,
    -70⟩

/-- Two reports of one device with the URL `http://",x=1i \.net`.  The second one spells the scheme
out behind a code without a meaning. -/
def forgingSet : ReportSet :=
  ⟨eventPacket, leMetaEvent, 69, advertisingReport, 2, [
    forgingReport [0x03, 0x03, 0xAA, 0xFE, 0x0F, 0x16, 0xAA, 0xFE, 0x10, 0xEB, 0x02, 0x22, 0x2C,
      0x78, 0x3D, 0x31, 0x69, 0x20, 0x5C, 0x0A],
    forgingReport [0x03, 0x03, 0xAA, 0xFE, 0x16, 0x16, 0xAA, 0xFE, 0x10, 0xEB, 0xFF, 0x68, 0x74,
      0x74, 0x70, 0x3A, 0x2F, 0x2F, 0x22, 0x2C, 0x78, 0x3D, 0x31, 0x69, 0x20, 0x5C, 0x0A]]⟩

def forgingBeacon (scheme : UrlScheme) (body : String) : Beacon :=
  ⟨.none, -21, some (-70), some ⟨⟨[0x00, 0x1A, 0x7D, 0xDA, 0x71, 0x13], rfl⟩⟩,
    .eddystone (.url scheme body)⟩

def forgingHttp : Beacon := forgingBeacon .http "\",x=1i \\.net"

def forgingUnknown : Beacon := forgingBeacon (.unknown 0xFF) "http://\",x=1i \\.net"

theorem line_of_mem_beacons_forgingSet :
    (Batch.ofSet .eddystone forgingSet).value.beacons = [forgingHttp, forgingUnknown] ∧
    (∃ behind, line "beacon" ⟨forgingHttp, 5⟩ = "beacon" ++ behind ∧ OneLine behind.toList) ∧
    forgingHttp ≠ forgingUnknown ∧ forgingHttp.Alike forgingUnknown := by
  have hbeacons : (Batch.ofSet .eddystone forgingSet).value.beacons =
      [forgingHttp, forgingUnknown] := by decide +kernel
  have hline : line "beacon" ⟨forgingHttp, 5⟩ = line "beacon" ⟨forgingUnknown, 5⟩ := by
    decide +kernel
  have hhttp : forgingHttp ∈ (Batch.ofSet .eddystone forgingSet).value.beacons := by
    rw [hbeacons]
    exact List.mem_cons_self
  have hunknown : forgingUnknown ∈ (Batch.ofSet .eddystone forgingSet).value.beacons := by
    rw [hbeacons]
    exact List.mem_cons_of_mem _ List.mem_cons_self
  obtain ⟨hone, hsame, -⟩ :=
    @line_of_mem_beacons "beacon" _ _ _ _ _ _ 5 5 hhttp hunknown
  exact ⟨hbeacons, hone, by decide, (hsame hline).1⟩

end Observation

end BleBeacon
