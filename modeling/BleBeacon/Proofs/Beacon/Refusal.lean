import Mathlib
import BleBeacon.Proofs.Beacon.Resending
import BleBeacon.Proofs.Beacon.SignificantLength
import BleBeacon.Proofs.Hci.Command

/-!
# What can be encoded

A frame is encoded or refused, and which of the two is said here without the encoder.  All that is
encoded has the same length, so the text of a refused beacon, which is empty, is told from it, and
controllers are asked to send exactly what has been encoded.
-/

namespace BleBeacon

/-- Frames that have a text. -/
def Frame.Encodable : Frame → Prop
  | .iBeacon _ => True
  | .eddystone (.uid namespaceId instanceId) =>
    Hex.AllDigits 20 namespaceId ∧ Hex.AllDigits 12 instanceId
  | .eddystone (.url scheme body) =>
    (∀ code, scheme ≠ .unknown code) ∧ (Url.encode body).length ≤ 17
  | .eddystone _ => False

/-- What a frame is refused for.  Of several faults this is the first: the namespace goes before the
instance, and the scheme before the length. -/
inductive Frame.RefusedFor : Frame → EncodeError → Prop where
  | namespaceId {namespaceId instanceId : String} (hdigits : ¬ Hex.AllDigits 20 namespaceId) :
      RefusedFor (.eddystone (.uid namespaceId instanceId)) (.invalidField .namespaceId namespaceId)
  | instanceId {namespaceId instanceId : String} (hnamespace : Hex.AllDigits 20 namespaceId)
      (hdigits : ¬ Hex.AllDigits 12 instanceId) :
      RefusedFor (.eddystone (.uid namespaceId instanceId)) (.invalidField .instanceId instanceId)
  | scheme (code : UInt8) (body : String) :
      RefusedFor (.eddystone (.url (.unknown code) body)) (.unknownUrlScheme body)
  | length {scheme : UrlScheme} {body : String} (hscheme : ∀ code, scheme ≠ .unknown code)
      (hlong : 17 < (Url.encode body).length) :
      RefusedFor (.eddystone (.url scheme body)) (.urlTooLong (Url.encode body).length)
  | tlm : RefusedFor (.eddystone .tlm) (.notImplemented .tlm)
  | eid : RefusedFor (.eddystone .eid) (.notImplemented .eid)
  | reserved : RefusedFor (.eddystone .reserved) (.notImplemented .reserved)

theorem Frame.encodable_or_refused (f : Frame) : f.Encodable ∨ ∃ e, f.RefusedFor e := by
  rcases f with (⟨namespaceId, instanceId⟩ | ⟨scheme, body⟩ | _ | _ | _) | beacon
  · by_cases hnamespace : Hex.AllDigits 20 namespaceId
    · by_cases hinstance : Hex.AllDigits 12 instanceId
      · exact .inl ⟨hnamespace, hinstance⟩
      · exact .inr ⟨_, .instanceId hnamespace hinstance⟩
    · exact .inr ⟨_, .namespaceId hnamespace⟩
  · by_cases hscheme : ∀ code, scheme ≠ .unknown code
    · by_cases hlength : (Url.encode body).length ≤ 17
      · exact .inl ⟨hscheme, hlength⟩
      · exact .inr ⟨_, .length hscheme (Nat.not_le.mp hlength)⟩
    · push Not at hscheme
      rcases hscheme with ⟨code, rfl⟩
      exact .inr ⟨_, .scheme code body⟩
  · exact .inr ⟨_, .tlm⟩
  · exact .inr ⟨_, .eid⟩
  · exact .inr ⟨_, .reserved⟩
  · exact .inl trivial

/-! ## Encoding -/

-- The length in bytes of UTF-8 is the number of digits when there is nothing else.
theorem UidField.check_of_allDigits {field : UidField} {value : String}
    (h : Hex.AllDigits (2 * field.width) value) : field.check value = .ok () := by
  rcases (Hex.allDigits_iff_exists_spells _ _).mp h with ⟨bytes, hspells, hlength⟩
  unfold UidField.check
  rw [if_pos]
  refine ⟨?_, Option.isSome_iff_exists.mpr ⟨bytes, hspells⟩⟩
  rw [Hex.utf8Length_of_decode? hspells, hlength]

theorem UidField.check_of_not_allDigits {field : UidField} {value : String}
    (h : ¬ Hex.AllDigits (2 * field.width) value) :
    field.check value = .error (.invalidField field value) := by
  have hvalue : field.check value ≠ .ok () := fun hok ↦
    h ((Hex.allDigits_iff_exists_spells _ _).mpr (UidField.check_eq_ok hok))
  unfold UidField.check at hvalue ⊢
  split at hvalue
  · exact absurd rfl hvalue
  · rename_i hother
    rw [if_neg hother]

variable {b : Beacon}

theorem Beacon.exists_tryEncode (h : b.frame.Encodable) : ∃ text, b.tryEncode = .ok text := by
  rcases b with ⟨flags, txPower, rssi, address, (frame | beacon)⟩
  · cases frame with
    | uid namespaceId instanceId =>
      rcases h with ⟨hnamespace, hinstance⟩
      have hhigh : UidField.namespaceId.check namespaceId = .ok () :=
        UidField.check_of_allDigits hnamespace
      have hlow : UidField.instanceId.check instanceId = .ok () :=
        UidField.check_of_allDigits hinstance
      change ∃ text, (EddystoneFrame.uid namespaceId instanceId).encode flags txPower = .ok text
      rw [EddystoneFrame.encode, hhigh, hlow]
      exact ⟨_, rfl⟩
    | url scheme body =>
      exact exists_encode_url flags txPower (UrlScheme.mem_known_of_ne_unknown h.1) h.2
    | tlm => exact h.elim
    | eid => exact h.elim
    | reserved => exact h.elim
  · exact ⟨_, rfl⟩

theorem Beacon.tryEncode_of_refusedFor {e : EncodeError} (h : b.frame.RefusedFor e) :
    b.tryEncode = .error e := by
  rcases b with ⟨flags, txPower, rssi, address, frame⟩
  change frame.RefusedFor e at h
  cases h with
  | @namespaceId namespaceId instanceId hdigits =>
    have hhigh : UidField.namespaceId.check namespaceId = .error _ :=
      UidField.check_of_not_allDigits hdigits
    change (EddystoneFrame.uid namespaceId instanceId).encode flags txPower = _
    rw [EddystoneFrame.encode, hhigh]
    rfl
  | @instanceId namespaceId instanceId hnamespace hdigits =>
    have hhigh : UidField.namespaceId.check namespaceId = .ok () :=
      UidField.check_of_allDigits hnamespace
    have hlow : UidField.instanceId.check instanceId = .error _ :=
      UidField.check_of_not_allDigits hdigits
    change (EddystoneFrame.uid namespaceId instanceId).encode flags txPower = _
    rw [EddystoneFrame.encode, hhigh, hlow]
    rfl
  | scheme code body => rfl
  | length hscheme hlong =>
    refine (EddystoneFrame.encode_url (UrlScheme.mem_known_of_ne_unknown hscheme) _ _ _).trans ?_
    exact if_pos hlong
  | tlm => rfl
  | eid => rfl
  | reserved => rfl

theorem Beacon.exists_tryEncode_iff : (∃ text, b.tryEncode = .ok text) ↔ b.frame.Encodable := by
  refine ⟨fun h ↦ ?_, exists_tryEncode⟩
  rcases h with ⟨text, htext⟩
  rcases b.frame.encodable_or_refused with hencodable | ⟨e, hrefused⟩
  · exact hencodable
  · rw [tryEncode_of_refusedFor hrefused] at htext
    cases htext

theorem Beacon.tryEncode_eq_error_iff {e : EncodeError} :
    b.tryEncode = .error e ↔ b.frame.RefusedFor e := by
  refine ⟨fun h ↦ ?_, tryEncode_of_refusedFor⟩
  rcases b.frame.encodable_or_refused with hencodable | ⟨e', hrefused⟩
  · rcases exists_tryEncode hencodable with ⟨text, htext⟩
    rw [h] at htext
    cases htext
  · have hsame := (tryEncode_of_refusedFor hrefused).symm.trans h
    cases hsame
    exact hrefused

/-! ## What has been encoded -/

theorem Beacon.spells_of_tryEncode {text : String} (h : b.tryEncode = .ok text) :
    ∃ bytes, Hex.Spells text bytes ∧ bytes.length = 32 := by
  rcases exists_carries_of_tryEncode h with ⟨d, hcarries, hspells⟩
  refine ⟨d.bytes, hspells, ?_⟩
  rw [AdvertisingData.bytes, List.length_cons, hcarries.length_payload]

theorem Beacon.encode_of_ok {text : String} (h : b.tryEncode = .ok text) :
    b.encode.value = text := by
  unfold Beacon.encode
  rw [h]

theorem Beacon.encode_of_error {e : EncodeError} (h : b.tryEncode = .error e) :
    b.encode.value = "" := by
  unfold Beacon.encode
  rw [h]

/-- A beacon has a text exactly if its frame can be encoded, and is refused for the first fault
otherwise.  Every text has 64 digits and is what a controller is asked to send; the text of a
refused beacon is empty, and no controller is asked for anything. -/
theorem tryEncode_outcome (b : Beacon) :
    ((∃ text, b.tryEncode = .ok text) ↔ b.frame.Encodable) ∧
    (∀ e, b.tryEncode = .error e ↔ b.frame.RefusedFor e) ∧
    (∀ text, b.tryEncode = .ok text →
      Hex.AllDigits 64 text ∧ b.encode.value = text ∧
      ∃ bytes, Hex.decode text = .ok bytes ∧ bytes.length = 32 ∧
        Hci.setAdvertisingData b.encode.value = .ok ([0x01, 0x08, 0x20, 0x20] ++ bytes)) ∧
    (b.encode.value = "" ↔ ∃ e, b.tryEncode = .error e) ∧
    ((∃ packet, Hci.setAdvertisingData b.encode.value = .ok packet) ↔
      ∃ text, b.tryEncode = .ok text) := by
  refine ⟨Beacon.exists_tryEncode_iff, fun e ↦ Beacon.tryEncode_eq_error_iff, ?_, ?_, ?_⟩
  · intro text htext
    rcases Beacon.spells_of_tryEncode htext with ⟨bytes, hspells, hlength⟩
    have hdigits : Hex.AllDigits (2 * 32) text :=
      (Hex.allDigits_iff_exists_spells 32 text).mpr ⟨bytes, hspells, hlength⟩
    refine ⟨hdigits, Beacon.encode_of_ok htext, bytes, hspells.decode_eq, hlength, ?_⟩
    rw [Beacon.encode_of_ok htext, Hci.setAdvertisingData_of_spells hspells (by omega)
      (by rw [hlength]; decide), hlength]
    rfl
  · constructor
    · intro hempty
      cases hencode : b.tryEncode with
      | error e => exact ⟨e, rfl⟩
      | ok text =>
        rcases Beacon.spells_of_tryEncode hencode with ⟨bytes, hspells, hlength⟩
        rw [Beacon.encode_of_ok hencode] at hempty
        rw [hempty] at hspells
        cases hspells
        cases hlength
    · rintro ⟨e, herror⟩
      exact Beacon.encode_of_error herror
  · constructor
    · rintro ⟨packet, hpacket⟩
      cases hencode : b.tryEncode with
      | ok text => exact ⟨text, rfl⟩
      | error e =>
        rw [Beacon.encode_of_error hencode, Hci.setAdvertisingData_empty] at hpacket
        cases hpacket
    · rintro ⟨text, htext⟩
      rcases Beacon.spells_of_tryEncode htext with ⟨bytes, hspells, hlength⟩
      rw [Beacon.encode_of_ok htext]
      exact ⟨_, Hci.setAdvertisingData_of_spells hspells (by omega) (by rw [hlength]; decide)⟩

/-- A UID with twenty bytes of UTF-8 for a namespace, which are not all digits, and a short
instance. -/
def twiceFaultyBeacon : Beacon := .ofFrame (.eddystone (.uid "000102030405060708é" "0a0b")) (-21)

theorem tryEncode_outcome_twiceFaultyBeacon :
    shoutingBeacon.tryEncode =
      .ok "1e02011a0303aafe1716aafe00eb00010203040506070ABC0A0B0C0D0E0F0000" ∧
    (∃ bytes, Hex.decode "1e02011a0303aafe1716aafe00eb00010203040506070ABC0A0B0C0D0E0F0000" =
        .ok bytes ∧ bytes.length = 32 ∧
      Hci.setAdvertisingData shoutingBeacon.encode.value =
        .ok ([0x01, 0x08, 0x20, 0x20] ++ bytes)) ∧
    twiceFaultyBeacon.frame.RefusedFor (.invalidField .namespaceId "000102030405060708é") ∧
    twiceFaultyBeacon.tryEncode = .error (.invalidField .namespaceId "000102030405060708é") ∧
    twiceFaultyBeacon.encode.value = "" := by
  have hencode : shoutingBeacon.tryEncode =
      .ok "1e02011a0303aafe1716aafe00eb00010203040506070ABC0A0B0C0D0E0F0000" := by decide +kernel
  have hrefused :
      twiceFaultyBeacon.frame.RefusedFor (.invalidField .namespaceId "000102030405060708é") :=
    .namespaceId (by decide)
  have herror := ((tryEncode_outcome twiceFaultyBeacon).2.1 _).mpr hrefused
  refine ⟨hencode, ((tryEncode_outcome shoutingBeacon).2.2.1 _ hencode).2.2, hrefused, herror, ?_⟩
  exact (tryEncode_outcome twiceFaultyBeacon).2.2.2.1.mpr ⟨_, herror⟩

end BleBeacon
