import Mathlib
import BleBeacon.Proofs.Beacon.Recognition
import BleBeacon.Proofs.Beacon.RoundTrip
import BleBeacon.Proofs.Beacon.UrlLength

/-!
# Sending on what was recognised

A recognised beacon can be encoded, and is recognised again as it was.  Its digits are those that
the decoder writes, and the text of a URL takes no more bytes than the sender has used for it.
-/

namespace BleBeacon

/-- A beacon that can be encoded and that its format finds unchanged behind the count. -/
def Beacon.Resends (kind : BeaconKind) (b : Beacon) : Prop :=
  ∃ text count payload, b.tryEncode = .ok text ∧ Hex.decode text = .ok (count :: payload) ∧
    kind.recognize payload = .ok (some b)

/-- Frames that can be sent on.  A URL needs a scheme with a code, and what follows the scheme must
be what some ASCII bytes say that fit into a frame. -/
def Frame.Resendable : Frame → Prop
  | .iBeacon _ => True
  | .eddystone (.uid _ _) => True
  | .eddystone (.url scheme body) =>
    scheme ∈ UrlScheme.known ∧
      ∃ sent, body = Url.decode sent ∧ sent.length ≤ 17 ∧ ∀ b ∈ sent, b < 0x80
  | .eddystone _ => False

/-! ## What recognition reads -/

theorem AdStructure.eq_of_isEddystoneData {s : AdStructure} (h : s.isEddystoneData) :
    s.type = AdType.serviceData.code ∧ s.data = eddystoneService ++ s.data.drop 2 := by
  rw [isEddystoneData, Bool.and_eq_true, beq_iff_eq, List.isPrefixOf_iff_prefix] at h
  obtain ⟨htype, rest, hrest⟩ := h
  refine ⟨htype, ?_⟩
  rw [← hrest]
  rfl

theorem decodeFrame_eq_uid {type : FrameType} {payload : Bytes} {namespaceId instanceId : String}
    (h : decodeFrame type payload = .ok (.uid namespaceId instanceId)) :
    ∃ high low, high.length = 10 ∧ low.length = 6 ∧ namespaceId = Hex.encode high ∧
      instanceId = Hex.encode low := by
  cases type with
  | uid =>
    rw [decodeFrame] at h
    split at h
    · cases h
    · rename_i hlength
      cases h
      refine ⟨_, _, ?_, ?_, rfl, rfl⟩
      · rw [List.length_take]
        omega
      · rw [List.length_take, List.length_drop]
        omega
  | url =>
    cases payload with
    | nil => cases h
    | cons scheme body => cases h
  | tlm => cases h
  | eid => cases h
  | reserved => cases h

theorem decodeFrame_eq_url {type : FrameType} {payload : Bytes} {scheme : UrlScheme} {body : String}
    (h : decodeFrame type payload = .ok (.url scheme body)) :
    type = .url ∧ ∃ code sent, payload = code :: sent ∧ scheme = .ofCode code ∧
      body = Url.decode sent := by
  cases type with
  | uid =>
    rw [decodeFrame] at h
    split at h <;> cases h
  | url =>
    cases payload with
    | nil => cases h
    | cons code sent =>
      cases h
      exact ⟨rfl, code, sent, rfl, rfl, rfl⟩
  | tlm => cases h
  | eid => cases h
  | reserved => cases h

theorem exists_decodeFrame_of_recognize {kind : BeaconKind} {payload : Bytes} {b : Beacon}
    {frame : EddystoneFrame} (h : kind.recognize payload = .ok (some b))
    (hframe : b.frame = .eddystone frame) :
    ∃ s type power rest, .ok s ∈ adItems payload ∧ s.type = AdType.serviceData.code ∧
      s.data = eddystoneService ++ FrameType.code type :: power :: rest ∧
      decodeFrame type rest = .ok frame := by
  have hkind := (BeaconKind.recognize_eq_some h).1
  rw [Beacon.kind, hframe] at hkind
  cases hkind
  obtain ⟨s, hmem, hdata, hdecode⟩ := findEddystone_eq_some h
  obtain ⟨type, power, rest, frame', hdrop, hframe', hb⟩ := decodeServiceData_eq_some hdecode
  obtain ⟨htype, happend⟩ := AdStructure.eq_of_isEddystoneData hdata
  rw [hb] at hframe
  cases hframe
  exact ⟨s, type, power, rest, hmem, htype, by rw [← hdrop]; exact happend, hframe'⟩

/-! ## Encoding it again -/

theorem UidField.check_encode {field : UidField} {bytes : Bytes} (h : bytes.length = field.width) :
    field.check (Hex.encode bytes) = .ok () := by
  have hspells := Hex.spells_encode bytes
  have hlength := Hex.utf8Length_of_decode? hspells
  rw [h] at hlength
  rw [UidField.check, if_pos ⟨hlength, by rw [hspells]; rfl⟩]

theorem not_isUpper_of_mem_encode {bytes : Bytes} :
    ∀ c ∈ (Hex.encode bytes).toList, ¬ c.isUpper :=
  (toLower_eq_self_iff _).mp (Hex.spells_encode bytes).encode_eq.symm

theorem exists_encode_uid (flags : AdFlags) (txPower : Int8) {high low : Bytes}
    (hhigh : high.length = 10) (hlow : low.length = 6) :
    ∃ text, (EddystoneFrame.uid (Hex.encode high) (Hex.encode low)).encode flags txPower =
      .ok text := by
  rw [EddystoneFrame.encode, UidField.check_encode hhigh, UidField.check_encode hlow]
  exact ⟨_, rfl⟩

theorem exists_encode_url (flags : AdFlags) (txPower : Int8) {scheme : UrlScheme} {body : String}
    (hscheme : scheme ∈ UrlScheme.known) (hlength : (Url.encode body).length ≤ Url.maxLength) :
    ∃ text, (EddystoneFrame.url scheme body).encode flags txPower = .ok text := by
  rw [EddystoneFrame.encode_url hscheme, if_neg (Nat.not_lt.mpr hlength)]
  exact ⟨_, rfl⟩

/-- A beacon that can be sent on is encoded, and loses nothing. -/
theorem tryEncode_of_resendable {kind : BeaconKind} {payload : Bytes} {b : Beacon}
    (h : kind.recognize payload = .ok (some b)) (hresendable : b.frame.Resendable) :
    (∃ text, b.tryEncode = .ok text) ∧ b.frame.Lossless := by
  rcases b with ⟨flags, txPower, rssi, address, (frame | beacon)⟩
  · cases frame with
    | uid namespaceId instanceId =>
      obtain ⟨s, type, power, rest, -, -, -, hframe⟩ := exists_decodeFrame_of_recognize h rfl
      obtain ⟨high, low, hhigh, hlow, rfl, rfl⟩ := decodeFrame_eq_uid hframe
      exact ⟨exists_encode_uid flags txPower hhigh hlow, not_isUpper_of_mem_encode,
        not_isUpper_of_mem_encode⟩
    | url scheme body =>
      obtain ⟨hscheme, sent, rfl, hlength, hsent⟩ := hresendable
      have hle := (Url.length_encode_decode_le hsent).trans hlength
      exact ⟨exists_encode_url flags txPower hscheme hle, Url.literal_of_mem_decode hsent⟩
    | tlm => exact hresendable.elim
    | eid => exact hresendable.elim
    | reserved => exact hresendable.elim
  · exact ⟨⟨_, rfl⟩, trivial⟩

/-- A beacon that is found in any payload is encoded and found again as it was, if it is an iBeacon,
a UID, or a URL with a known scheme that was sent as at most 17 bytes of ASCII. -/
theorem resends_of_recognize {kind : BeaconKind} {payload : Bytes} {b : Beacon}
    (h : kind.recognize payload = .ok (some b)) :
    (∀ scheme body, b.frame = .eddystone (.url scheme body) →
      ∃ s power code sent, .ok s ∈ adItems payload ∧ s.type = AdType.serviceData.code ∧
        s.data = eddystoneService ++ FrameType.url.code :: power :: code :: sent ∧
        scheme = .ofCode code ∧ body = Url.decode sent) ∧
    (b.frame.Resendable → b.Resends kind) := by
  constructor
  · intro scheme body hframe
    obtain ⟨s, type, power, rest, hmem, htype, hdata, hdecode⟩ :=
      exists_decodeFrame_of_recognize h hframe
    obtain ⟨rfl, code, sent, rfl, hscheme, hbody⟩ := decodeFrame_eq_url hdecode
    exact ⟨s, power, code, sent, hmem, htype, hdata, hscheme, hbody⟩
  · intro hresendable
    obtain ⟨⟨text, htext⟩, hlossless⟩ := tryEncode_of_resendable h hresendable
    obtain ⟨hkind, haddress, hrssi⟩ := BeaconKind.recognize_eq_some h
    obtain ⟨d, hcarries, hspells⟩ := exists_carries_of_tryEncode htext
    refine ⟨text, d.count, d.payload, htext, hspells.decode_eq, ?_⟩
    rw [AdvertisingData.payload, ← hkind, hcarries.recognize,
      (Beacon.onAir_eq_self_iff haddress hrssi).mpr hlossless]

/-- A payload with structures that do not matter, in which a host is spelled with the code that has
no slash, and a slash behind it. -/
def spelledOutPayload : Bytes :=
  [0x02, 0x01, 0x06, 0x03, 0x03, 0xAA, 0xFE, 0x02, 0x0A, 0x04, 0x09, 0x16, 0xAA, 0xFE, 0x10, 0xEB,
    0x02, 0x61, 0x07, 0x2F, 0x00, 0xFF]

def spelledOutBeacon : Beacon :=
  ⟨.ofByte 0x06, -21, none, none, .eddystone (.url .http "a.com/")⟩

theorem resends_of_recognize_spelledOutPayload :
    BeaconKind.eddystone.recognize spelledOutPayload = .ok (some spelledOutBeacon) ∧
    spelledOutBeacon.frame.Resendable ∧ spelledOutBeacon.Resends .eddystone ∧
    Url.encode "a.com/" = [0x61, 0x00] := by
  have hfound : BeaconKind.eddystone.recognize spelledOutPayload = .ok (some spelledOutBeacon) := by
    decide +kernel
  have hresendable : spelledOutBeacon.frame.Resendable :=
    ⟨by decide, [0x61, 0x07, 0x2F], by decide +kernel, by decide, by decide +kernel⟩
  refine ⟨hfound, hresendable, (resends_of_recognize hfound).2 hresendable, ?_⟩
  rw [Url.encode, show utf8Bytes "a.com/".toList = [0x61, 0x2E, 0x63, 0x6F, 0x6D, 0x2F] from rfl,
    Url.compress_cons_of_ending?_eq_none rfl,
    Url.compress_of_ending? (show Url.ending? _ = some (0, []) from rfl), Url.compress]

end BleBeacon
