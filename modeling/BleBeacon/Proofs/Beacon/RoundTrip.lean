import Mathlib
import BleBeacon.Proofs.Beacon.AdvertisingData
import BleBeacon.Proofs.Beacon.Url

/-!
# Encoded beacons are recognised

A beacon that can be encoded is found again in its own advertising data.  It comes back without the
address and the strength of a reception, with the digits of a UID in lower case, and with a URL as
compression leaves it.
-/

namespace BleBeacon

/-- What is left of a frame on the air. -/
def Frame.onAir : Frame → Frame
  | .eddystone (.uid namespaceId instanceId) =>
    .eddystone (.uid namespaceId.toLower instanceId.toLower)
  | .eddystone (.url scheme body) => .eddystone (.url scheme (Url.decode (Url.encode body)))
  | frame => frame

/-- What is left of a beacon on the air. -/
def Beacon.onAir (b : Beacon) : Beacon :=
  { b with address := none, rssi := none, frame := b.frame.onAir }

/-- Frames of which nothing is lost on the air. -/
def Frame.Lossless : Frame → Prop
  | .eddystone (.uid namespaceId instanceId) =>
    (∀ c ∈ namespaceId.toList, ¬ c.isUpper) ∧ ∀ c ∈ instanceId.toList, ¬ c.isUpper
  | .eddystone (.url _ body) => ∀ c ∈ body.toList, Url.Literal c
  | _ => True

/-! ## Decoding the parts -/

theorem decodeFrame_uid {high low : Bytes} (hhigh : high.length = 10) (hlow : low.length = 6)
    (rest : Bytes) :
    decodeFrame .uid (high ++ low ++ rest) = .ok (.uid (Hex.encode high) (Hex.encode low)) := by
  have hlength : ¬ (high ++ low ++ rest).length < 16 := by
    simp only [List.length_append]
    omega
  have htake : (high ++ low ++ rest).take 10 = high := by
    rw [← hhigh, List.append_assoc, List.take_left]
  have hrest : ((high ++ low ++ rest).drop 10).take 6 = low := by
    rw [← hhigh, List.append_assoc, List.drop_left, ← hlow, List.take_left]
  simp only [decodeFrame]
  rw [if_neg hlength, htake, hrest]

theorem decodeServiceData_uidFrame (flags : AdFlags) (txPower : Int8) {high low : Bytes}
    (hhigh : high.length = 10) (hlow : low.length = 6) :
    decodeServiceData (uidFrame txPower high low) flags =
      .ok (some ⟨flags, txPower, none, none,
        .eddystone (.uid (Hex.encode high) (Hex.encode low))⟩) := by
  rw [uidFrame, decodeServiceData, show FrameType.ofCode? FrameType.uid.code = some .uid from rfl]
  simp only [decodeFrame_uid hhigh hlow, Int8.toInt8_toUInt8]
  rfl

theorem UrlScheme.ofCode_code {scheme : UrlScheme} (h : scheme ∈ UrlScheme.known) :
    UrlScheme.ofCode scheme.code = scheme := by
  have hall : ∀ scheme ∈ UrlScheme.known, UrlScheme.ofCode scheme.code = scheme := by decide
  exact hall scheme h

theorem decodeServiceData_urlFrame (flags : AdFlags) (txPower : Int8) {scheme : UrlScheme}
    (body : String) (hscheme : scheme ∈ UrlScheme.known) :
    decodeServiceData (urlFrame txPower scheme body) flags =
      .ok (some ⟨flags, txPower, none, none,
        .eddystone (.url scheme (Url.decode (Url.encode body)))⟩) := by
  rw [urlFrame, decodeServiceData, show FrameType.ofCode? FrameType.url.code = some .url from rfl]
  simp only [decodeFrame]
  rw [UrlScheme.ofCode_code hscheme, Int8.toInt8_toUInt8]
  rfl

/-- Whatever the four bytes in front are, and whatever follows. -/
theorem decodeManufacturerData_append (flags : AdFlags) (txPower : Int8) (beacon : IBeacon)
    {header : Bytes} (hheader : header.length = 4) (rest : Bytes) :
    decodeManufacturerData (header ++ (beacon.content txPower ++ rest)) flags =
      .ok ⟨flags, txPower, none, none, .iBeacon beacon⟩ := by
  have huuidLength : beacon.uuid.bytes.length = 16 := beacon.uuid.octets.2
  have hmajorLength : (Bytes.ofNatBE 2 beacon.major.toNat).length = 2 := Bytes.length_ofNatBE 2 _
  have hminorLength : (Bytes.ofNatBE 2 beacon.minor.toNat).length = 2 := Bytes.length_ofNatBE 2 _
  -- The same bytes, split in front of each field.
  have huuid : ((header ++ (beacon.content txPower ++ rest)).drop 4).take 16 =
      beacon.uuid.bytes := by
    rw [IBeacon.content, List.append_assoc, List.append_assoc, List.append_assoc]
    exact Bytes.take_drop_middle hheader huuidLength
  have hmajor : ((header ++ (beacon.content txPower ++ rest)).drop 20).take 2 =
      Bytes.ofNatBE 2 beacon.major.toNat := by
    rw [IBeacon.content, List.append_assoc, List.append_assoc, List.append_assoc,
      ← List.append_assoc header]
    refine Bytes.take_drop_middle ?_ hmajorLength
    rw [List.length_append]
    omega
  have hminor : ((header ++ (beacon.content txPower ++ rest)).drop 22).take 2 =
      Bytes.ofNatBE 2 beacon.minor.toNat := by
    rw [IBeacon.content, List.append_assoc, List.append_assoc, ← List.append_assoc header]
    refine Bytes.take_drop_middle ?_ hminorLength
    simp only [List.length_append]
    omega
  have hpower : (header ++ (beacon.content txPower ++ rest)).getD 24 0 = txPower.toUInt8 := by
    rw [IBeacon.content, List.append_assoc, ← List.append_assoc header, List.getD_append_right]
    · rw [show 24 - _ = 0 by simp only [List.length_append]; omega]
      rfl
    · simp only [List.length_append]
      omega
  have hlong : ¬ (header ++ (beacon.content txPower ++ rest)).length < iBeaconLength := by
    simp only [IBeacon.content, List.length_append, List.length_singleton, iBeaconLength]
    omega
  rw [decodeManufacturerData, dif_neg hlong]
  simp only [Octets.ofTake, huuid, hmajor, hminor, hpower, Bytes.toUInt16_beNat_ofNatBE,
    Int8.toInt8_toUInt8]
  rfl

theorem decodeManufacturerData_content (flags : AdFlags) (txPower : Int8) (beacon : IBeacon) :
    decodeManufacturerData (iBeaconHeader ++ beacon.content txPower) flags =
      .ok ⟨flags, txPower, none, none, .iBeacon beacon⟩ := by
  have hdecode := decodeManufacturerData_append flags txPower beacon
    (show iBeaconHeader.length = 4 from rfl) []
  rwa [List.append_nil] at hdecode

/-! ## Whole beacons -/

theorem AdvertisingData.Carries.recognize {b : Beacon} {d : AdvertisingData} (h : d.Carries b)
    (tail : Bytes) :
    b.kind.recognize (d.significant ++ tail) = .ok (some b.onAir) := by
  rcases b with ⟨flags, txPower, rssi, address, frame⟩
  cases h with
  | uid hframe hhigh hhighLength hlow hlowLength =>
    cases hframe
    refine (recognize_eddystoneStructures _ _ tail ?_).trans ?_
    · rw [length_uidFrame _ hhighLength hlowLength]
      decide
    · rw [decodeServiceData_uidFrame _ _ hhighLength hlowLength, hhigh.encode_eq, hlow.encode_eq]
      rfl
  | url hframe hscheme hlength =>
    cases hframe
    refine (recognize_eddystoneStructures _ _ tail ?_).trans ?_
    · rw [length_urlFrame]
      rw [Url.maxLength] at hlength
      omega
    · rw [decodeServiceData_urlFrame _ _ _ hscheme]
      rfl
  | iBeacon hframe =>
    cases hframe
    refine (recognize_iBeaconStructures _ _ tail ?_).trans ?_
    · rw [IBeacon.length_content]
      decide
    · rw [decodeManufacturerData_content]
      rfl

theorem toLower_char_eq_self_iff (c : Char) : c.toLower = c ↔ ¬ c.isUpper := by
  refine ⟨fun h ↦ ?_, Char.toLower_eq_of_not_isUpper⟩
  rw [← h, Char.isUpper_toLower_eq_false]
  exact Bool.false_ne_true

theorem toLower_eq_self_iff (s : String) : s.toLower = s ↔ ∀ c ∈ s.toList, ¬ c.isUpper := by
  rw [← String.toList_inj, String.toLower, String.toList_map]
  have hmap : s.toList.map Char.toLower = s.toList ↔ ∀ c ∈ s.toList, c.toLower = c := by
    conv_lhs => rhs; rw [← List.map_id s.toList]
    exact List.map_inj_left
  rw [hmap]
  exact forall₂_congr fun c _ ↦ toLower_char_eq_self_iff c

theorem Frame.onAir_eq_self_iff (f : Frame) : f.onAir = f ↔ f.Lossless := by
  rcases f with (⟨namespaceId, instanceId⟩ | ⟨scheme, body⟩ | _ | _ | _) | beacon
  · rw [Frame.onAir, Frame.Lossless, ← toLower_eq_self_iff, ← toLower_eq_self_iff]
    simp
  · rw [Frame.onAir, Frame.Lossless, ← Url.decode_encode_eq_self_iff]
    simp
  all_goals exact ⟨fun _ ↦ trivial, fun _ ↦ rfl⟩

theorem Beacon.onAir_eq_self_iff {b : Beacon} (haddress : b.address = none)
    (hrssi : b.rssi = none) : b.onAir = b ↔ b.frame.Lossless := by
  rcases b with ⟨flags, txPower, rssi, address, frame⟩
  cases haddress
  cases hrssi
  rw [← Frame.onAir_eq_self_iff]
  simp [Beacon.onAir]

/-- What encoding gives is the text of a count and a payload in which the format of the beacon finds
the beacon again.  Only some digits and some characters of URLs do not survive. -/
theorem recognize_of_tryEncode {b : Beacon} {text : String} (h : b.tryEncode = .ok text) :
    ∃ count payload, Hex.decode text = .ok (count :: payload) ∧
      b.kind.recognize payload = .ok (some b.onAir) ∧
      (b.address = none → b.rssi = none → (b.onAir = b ↔ b.frame.Lossless)) := by
  rcases exists_carries_of_tryEncode h with ⟨d, hcarries, hspells⟩
  refine ⟨d.count, d.payload, hspells.decode_eq, ?_, ?_⟩
  · rw [AdvertisingData.payload]
    exact hcarries.recognize _
  · intro haddress hrssi
    exact Beacon.onAir_eq_self_iff haddress hrssi

/-- A UID written in capitals. -/
def shoutingBeacon : Beacon :=
  ⟨.standard, -21, none, none, .eddystone (.uid "00010203040506070ABC" "0A0B0C0D0E0F")⟩

theorem recognize_of_tryEncode_shoutingBeacon :
    shoutingBeacon.tryEncode =
      .ok "1e02011a0303aafe1716aafe00eb00010203040506070ABC0A0B0C0D0E0F0000" ∧
    (∃ count payload,
      Hex.decode "1e02011a0303aafe1716aafe00eb00010203040506070ABC0A0B0C0D0E0F0000" =
        .ok (count :: payload) ∧
      BeaconKind.eddystone.recognize payload = .ok (some shoutingBeacon.onAir)) ∧
    shoutingBeacon.onAir ≠ shoutingBeacon := by
  have hencode : shoutingBeacon.tryEncode =
      .ok "1e02011a0303aafe1716aafe00eb00010203040506070ABC0A0B0C0D0E0F0000" := by decide +kernel
  rcases recognize_of_tryEncode hencode with ⟨count, payload, hdecode, hrecognize, hself⟩
  refine ⟨hencode, ⟨count, payload, hdecode, hrecognize⟩, fun hsame ↦ ?_⟩
  exact absurd ((hself rfl rfl).mp hsame) (by simp [shoutingBeacon, Frame.Lossless])

end BleBeacon
