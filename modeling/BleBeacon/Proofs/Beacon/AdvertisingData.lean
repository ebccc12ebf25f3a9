import Mathlib
import BleBeacon.Beacon.Encode
import BleBeacon.Beacon.Recognition
import BleBeacon.Proofs.AdStructure
import BleBeacon.Proofs.Bytes
import BleBeacon.Proofs.Text.Hex

/-!
# The layout of encoded beacons

Encoding writes text.  Read as bytes, it is a count, the structures of the beacon and padding.
`AdvertisingData.Carries` says which layout belongs to which beacon, one case for each kind of frame
that can be encoded, and everything about encoded beacons is read off these cases.
-/

namespace BleBeacon

/-- Advertising data before it is written: the count of significant bytes that stands first, the
structures behind it, and the number of zeros at the end. -/
structure AdvertisingData where
  count : UInt8
  structures : List AdStructure
  padding : Nat

namespace AdvertisingData

/-- The bytes of the structures. -/
def significant (d : AdvertisingData) : Bytes := d.structures.flatMap AdStructure.serialize

/-- The bytes that a receiver would see. -/
def payload (d : AdvertisingData) : Bytes := d.significant ++ List.replicate d.padding 0

/-- The bytes that are handed to a controller. -/
def bytes (d : AdvertisingData) : Bytes := d.count :: d.payload

theorem take_payload (d : AdvertisingData) :
    d.payload.take d.significant.length = d.significant := by
  rw [payload, List.take_left]

theorem drop_payload (d : AdvertisingData) :
    d.payload.drop d.significant.length = List.replicate d.padding 0 := by
  rw [payload, List.drop_left]

theorem length_payload (d : AdvertisingData) :
    d.payload.length = d.significant.length + d.padding := by
  rw [payload, List.length_append, List.length_replicate]

end AdvertisingData

/-! ## Structures -/

/-- The structures of an Eddystone beacon: flags, the list of services, and the frame. -/
def eddystoneStructures (flags : AdFlags) (frame : Bytes) : List AdStructure :=
  [⟨0, AdType.flags.code, [flags.toByte]⟩,
    ⟨3, AdType.serviceList.code, eddystoneService⟩,
    ⟨7, AdType.serviceData.code, eddystoneService ++ frame⟩]

/-- The structures of an iBeacon: flags and manufacturer data. -/
def iBeaconStructures (flags : AdFlags) (content : Bytes) : List AdStructure :=
  [⟨0, AdType.flags.code, [flags.toByte]⟩,
    ⟨3, AdType.manufacturerData.code, iBeaconHeader ++ content⟩]

/-- A UID frame ends in two bytes that are kept free. -/
def uidFrame (txPower : Int8) (namespaceId instanceId : Bytes) : Bytes :=
  FrameType.uid.code :: txPower.toUInt8 :: (namespaceId ++ instanceId ++ [0, 0])

def urlFrame (txPower : Int8) (scheme : UrlScheme) (body : String) : Bytes :=
  FrameType.url.code :: txPower.toUInt8 :: scheme.code :: Url.encode body

def IBeacon.content (beacon : IBeacon) (txPower : Int8) : Bytes :=
  beacon.uuid.bytes ++ Bytes.ofNatBE 2 beacon.major.toNat ++ Bytes.ofNatBE 2 beacon.minor.toNat
    ++ [txPower.toUInt8]

theorem length_uidFrame (txPower : Int8) {high low : Bytes} (hhigh : high.length = 10)
    (hlow : low.length = 6) : (uidFrame txPower high low).length = 20 := by
  simp only [uidFrame, List.length_cons, List.length_append, List.length_nil]
  omega

theorem length_urlFrame (txPower : Int8) (scheme : UrlScheme) (body : String) :
    (urlFrame txPower scheme body).length = (Url.encode body).length + 3 := rfl

theorem IBeacon.length_content (beacon : IBeacon) (txPower : Int8) :
    (beacon.content txPower).length = 21 := by
  have huuidLength : beacon.uuid.bytes.length = 16 := beacon.uuid.octets.2
  simp only [IBeacon.content, List.length_append, List.length_singleton, Bytes.length_ofNatBE]
  omega

theorem length_eddystoneStructures (flags : AdFlags) (frame : Bytes) :
    ((eddystoneStructures flags frame).flatMap AdStructure.serialize).length =
      frame.length + 11 := by
  simp only [eddystoneStructures, List.flatMap_cons, List.flatMap_nil, List.length_append,
    AdStructure.length_serialize, List.length_singleton, List.length_nil]
  rw [show eddystoneService.length = 2 from rfl]
  omega

theorem length_iBeaconStructures (flags : AdFlags) (content : Bytes) :
    ((iBeaconStructures flags content).flatMap AdStructure.serialize).length =
      content.length + 9 := by
  simp only [iBeaconStructures, List.flatMap_cons, List.flatMap_nil, List.length_append,
    AdStructure.length_serialize, List.length_singleton, List.length_nil]
  rw [show iBeaconHeader.length = 4 from rfl]
  omega

theorem laidFrom_eddystoneStructures (flags : AdFlags) (frame : Bytes)
    (hlength : frame.length ≤ 252) :
    AdStructure.LaidFrom 0 (eddystoneStructures flags frame) := by
  refine ⟨rfl, by simp, rfl, by decide, rfl, ?_, trivial⟩
  rw [List.length_append, show eddystoneService.length = 2 from rfl]
  omega

theorem laidFrom_iBeaconStructures (flags : AdFlags) (content : Bytes)
    (hlength : content.length ≤ 250) :
    AdStructure.LaidFrom 0 (iBeaconStructures flags content) := by
  refine ⟨rfl, by simp, rfl, ?_, trivial⟩
  rw [List.length_append, show iBeaconHeader.length = 4 from rfl]
  omega

theorem bytes_eddystoneStructures (count : UInt8) (flags : AdFlags) (frame : Bytes)
    (padding : Nat) :
    AdvertisingData.bytes ⟨count, eddystoneStructures flags frame, padding⟩ =
      [count, 0x02, 0x01, flags.toByte, 0x03, 0x03, 0xaa, 0xfe, UInt8.ofNat (frame.length + 3),
        0x16, 0xaa, 0xfe] ++ frame ++ List.replicate padding 0 := by
  simp only [AdvertisingData.bytes, AdvertisingData.payload, AdvertisingData.significant,
    eddystoneStructures, AdStructure.serialize, List.flatMap_cons, List.flatMap_nil,
    List.length_append]
  rw [show eddystoneService.length + frame.length + 1 = frame.length + 3 by
    rw [show eddystoneService.length = 2 from rfl]; omega]
  simp [AdType.code, eddystoneService]

theorem bytes_iBeaconStructures (count : UInt8) (flags : AdFlags) (content : Bytes)
    (padding : Nat) :
    AdvertisingData.bytes ⟨count, iBeaconStructures flags content, padding⟩ =
      [count, 0x02, 0x01, flags.toByte, UInt8.ofNat (content.length + 5), 0xff, 0x4c, 0x00, 0x02,
        0x15] ++ content ++ List.replicate padding 0 := by
  simp only [AdvertisingData.bytes, AdvertisingData.payload, AdvertisingData.significant,
    iBeaconStructures, AdStructure.serialize, List.flatMap_cons, List.flatMap_nil,
    List.length_append]
  rw [show iBeaconHeader.length + content.length + 1 = content.length + 5 by
    rw [show iBeaconHeader.length = 4 from rfl]; omega]
  simp [AdType.code, iBeaconHeader]

/-! ## Recognition -/

theorem AdFlags.after_flags (f g : AdFlags) (offset : Nat) :
    f.after ⟨offset, AdType.flags.code, [g.toByte]⟩ = g := by
  rw [AdFlags.after, if_pos rfl]
  exact AdFlags.ofByte_toByte g

/-- What follows the frame does not matter. -/
theorem recognize_eddystoneStructures (flags : AdFlags) (frame tail : Bytes)
    (hlength : frame.length ≤ 252) :
    BeaconKind.eddystone.recognize
        ((eddystoneStructures flags frame).flatMap AdStructure.serialize ++ tail) =
      decodeServiceData frame flags := by
  rw [BeaconKind.recognize,
    adItems_serialize _ _ (laidFrom_eddystoneStructures flags frame hlength)]
  simp only [eddystoneStructures, List.map_cons, List.cons_append]
  rw [findEddystone, if_neg (by simp), AdFlags.after_flags]
  -- The list of services leaves the flags alone and makes the frame count.
  rw [findEddystone, if_neg (by simp [AdStructure.isEddystoneData, AdType.code]), findEddystone,
    if_pos (by simp [AdStructure.isEddystoneData, AdStructure.listsEddystone, eddystoneService])]
  rfl

theorem recognize_iBeaconStructures (flags : AdFlags) (content tail : Bytes)
    (hlength : content.length ≤ 250) :
    BeaconKind.iBeacon.recognize
        ((iBeaconStructures flags content).flatMap AdStructure.serialize ++ tail) =
      (decodeManufacturerData (iBeaconHeader ++ content) flags).map some := by
  rw [BeaconKind.recognize,
    adItems_serialize _ _ (laidFrom_iBeaconStructures flags content hlength)]
  simp only [iBeaconStructures, List.map_cons, List.cons_append]
  rw [findIBeacon, if_neg (by simp [AdStructure.isIBeaconData, AdType.code]), AdFlags.after_flags,
    findIBeacon, if_pos (by simp [AdStructure.isIBeaconData, iBeaconHeader])]

/-! ## Layouts of beacons -/

/-- The layouts of beacons, by kind of frame.  The digits of a UID are read as bytes; a URL has a
scheme with a code and leaves as much padding as it falls short of the longest one. -/
inductive AdvertisingData.Carries (b : Beacon) : AdvertisingData → Prop where
  | uid {namespaceId instanceId : String} {high low : Bytes}
      (hframe : b.frame = .eddystone (.uid namespaceId instanceId))
      (hhigh : Hex.Spells namespaceId high) (hhighLength : high.length = 10)
      (hlow : Hex.Spells instanceId low) (hlowLength : low.length = 6) :
      Carries b ⟨0x1e, eddystoneStructures b.flags (uidFrame b.txPower high low), 0⟩
  | url {scheme : UrlScheme} {body : String} (hframe : b.frame = .eddystone (.url scheme body))
      (hscheme : scheme ∈ UrlScheme.known) (hlength : (Url.encode body).length ≤ Url.maxLength) :
      Carries b ⟨UInt8.ofNat (14 + (Url.encode body).length),
        eddystoneStructures b.flags (urlFrame b.txPower scheme body),
        Url.maxLength - (Url.encode body).length⟩
  | iBeacon {beacon : IBeacon} (hframe : b.frame = .iBeacon beacon) :
      Carries b ⟨0x1e, iBeaconStructures b.flags (beacon.content b.txPower), 1⟩

theorem UidField.check_eq_ok {field : UidField} {value : String}
    (h : field.check value = .ok ()) :
    ∃ bytes, Hex.Spells value bytes ∧ bytes.length = field.width := by
  unfold UidField.check at h
  split at h
  · rename_i hvalue
    rcases hvalue with ⟨hlength, hsome⟩
    rcases Option.isSome_iff_exists.mp hsome with ⟨bytes, hbytes⟩
    have htwice := Hex.utf8Length_of_decode? hbytes
    exact ⟨bytes, hbytes, by omega⟩
  · cases h

theorem spells_byteText (b : UInt8) : Hex.Spells (Hex.byteText b) [b] := Hex.spells_encode [b]

theorem spells_powerHex (txPower : Int8) : Hex.Spells (powerHex txPower) [txPower.toUInt8] :=
  spells_byteText txPower.toUInt8

theorem AdFlags.spells_hex (f : AdFlags) : Hex.Spells f.hex [0x02, 0x01, f.toByte] :=
  (show Hex.Spells "0201" [0x02, 0x01] by decide).append (spells_byteText f.toByte)

theorem spells_eddystoneListHex : Hex.Spells eddystoneListHex [0x03, 0x03, 0xaa, 0xfe] := by
  decide

theorem spells_encode_uid (flags : AdFlags) (txPower : Int8) {namespaceId instanceId text : String}
    (h : (EddystoneFrame.uid namespaceId instanceId).encode flags txPower = .ok text) :
    ∃ high low, Hex.Spells namespaceId high ∧ high.length = 10 ∧
      Hex.Spells instanceId low ∧ low.length = 6 ∧
      Hex.Spells text (AdvertisingData.bytes
        ⟨0x1e, eddystoneStructures flags (uidFrame txPower high low), 0⟩) := by
  rw [EddystoneFrame.encode] at h
  cases hn : UidField.namespaceId.check namespaceId with
  | error e =>
    rw [hn] at h
    cases h
  | ok =>
    cases hi : UidField.instanceId.check instanceId with
    | error e =>
      rw [hn, hi] at h
      cases h
    | ok =>
      rw [hn, hi] at h
      rcases UidField.check_eq_ok hn with ⟨high, hhigh, hhighLength⟩
      rcases UidField.check_eq_ok hi with ⟨low, hlow, hlowLength⟩
      change high.length = 10 at hhighLength
      change low.length = 6 at hlowLength
      have hcount : Hex.Spells "1e" [0x1e] := by decide
      have hheader : Hex.Spells "1716aafe" [0x17, 0x16, 0xaa, 0xfe] := by decide
      have hfree : Hex.Spells "0000" [0, 0] := by decide
      have hread := (((((((hcount.append flags.spells_hex).append
        spells_eddystoneListHex).append hheader).append
        (spells_byteText FrameType.uid.code)).append (spells_powerHex txPower)).append
        hhigh).append hlow).append hfree
      cases h
      refine ⟨high, low, hhigh, hhighLength, hlow, hlowLength, ?_⟩
      rw [bytes_eddystoneStructures,
        length_uidFrame _ hhighLength hlowLength]
      convert hread using 1
      simp [uidFrame]

/-- All schemes with a code are encoded alike. -/
theorem EddystoneFrame.encode_url {scheme : UrlScheme} (h : scheme ∈ UrlScheme.known)
    (body : String) (flags : AdFlags) (txPower : Int8) :
    (EddystoneFrame.url scheme body).encode flags txPower =
      if Url.maxLength < (Url.encode body).length then
        .error (.urlTooLong (Url.encode body).length)
      else
        .ok (Hex.byteText (UInt8.ofNat (14 + (Url.encode body).length)) ++ flags.hex
          ++ eddystoneListHex ++ Hex.byteText (UInt8.ofNat (6 + (Url.encode body).length))
          ++ "16aafe" ++ Hex.byteText FrameType.url.code ++ powerHex txPower
          ++ Hex.byteText scheme.code ++ Hex.encode (Url.encode body)
          ++ Hex.encode (List.replicate (Url.maxLength - (Url.encode body).length) 0)) := by
  cases scheme with
  | unknown code => exact absurd h (by simp [UrlScheme.known])
  | _ => rfl

theorem UrlScheme.mem_known_of_ne_unknown {scheme : UrlScheme}
    (h : ∀ code, scheme ≠ .unknown code) : scheme ∈ UrlScheme.known := by
  cases scheme with
  | unknown code => exact absurd rfl (h code)
  | _ => decide

theorem spells_encode_url (flags : AdFlags) (txPower : Int8) {scheme : UrlScheme}
    {body text : String}
    (h : (EddystoneFrame.url scheme body).encode flags txPower = .ok text) :
    scheme ∈ UrlScheme.known ∧ (Url.encode body).length ≤ Url.maxLength ∧
      Hex.Spells text (AdvertisingData.bytes
        ⟨UInt8.ofNat (14 + (Url.encode body).length),
          eddystoneStructures flags (urlFrame txPower scheme body),
          Url.maxLength - (Url.encode body).length⟩) := by
  have hknown : scheme ∈ UrlScheme.known := by
    apply UrlScheme.mem_known_of_ne_unknown
    rintro code rfl
    cases h
  have htype : Hex.Spells "16aafe" [0x16, 0xaa, 0xfe] := by decide
  rw [EddystoneFrame.encode_url hknown] at h
  split at h
  · cases h
  · rename_i hlength
    have hread := (((((((((spells_byteText (UInt8.ofNat (14 + (Url.encode body).length))).append
      flags.spells_hex).append spells_eddystoneListHex).append
      (spells_byteText (UInt8.ofNat (6 + (Url.encode body).length)))).append htype).append
      (spells_byteText FrameType.url.code)).append (spells_powerHex txPower)).append
      (spells_byteText scheme.code)).append (Hex.spells_encode (Url.encode body))).append
      (Hex.spells_encode (List.replicate (Url.maxLength - (Url.encode body).length) 0))
    obtain rfl := Except.ok.inj h
    refine ⟨hknown, Nat.not_lt.mp hlength, ?_⟩
    rw [bytes_eddystoneStructures,
      show (urlFrame txPower scheme body).length + 3 = 6 + (Url.encode body).length by
        rw [length_urlFrame]; omega]
    convert hread using 1
    simp [urlFrame]

theorem IBeacon.spells_encode (beacon : IBeacon) (flags : AdFlags) (txPower : Int8) :
    Hex.Spells (beacon.encode flags txPower) (AdvertisingData.bytes
      ⟨0x1e, iBeaconStructures flags (beacon.content txPower), 1⟩) := by
  have hcount : Hex.Spells "1e" [0x1e] := by decide
  have hheader : Hex.Spells "1aff4c000215" [0x1a, 0xff, 0x4c, 0x00, 0x02, 0x15] := by decide
  have hpadding : Hex.Spells "00" [0] := by decide
  have hread := ((((((hcount.append flags.spells_hex).append hheader).append
    (Hex.spells_encode beacon.uuid.bytes)).append
    (Hex.spells_encode (Bytes.ofNatBE 2 beacon.major.toNat))).append
    (Hex.spells_encode (Bytes.ofNatBE 2 beacon.minor.toNat))).append
    (spells_powerHex txPower)).append hpadding
  rw [IBeacon.encode, Uuid.simple, bytes_iBeaconStructures, IBeacon.length_content]
  convert hread using 1
  simp [IBeacon.content]

/-- Every text that encoding gives is the layout of its beacon. -/
theorem exists_carries_of_tryEncode {b : Beacon} {text : String} (h : b.tryEncode = .ok text) :
    ∃ d : AdvertisingData, d.Carries b ∧ Hex.Spells text d.bytes := by
  rw [Beacon.tryEncode] at h
  split at h
  · rename_i frame hframe
    cases frame with
    | uid namespaceId instanceId =>
      rcases spells_encode_uid _ _ h with ⟨high, low, hhigh, hhighLength, hlow, hlowLength, hread⟩
      exact ⟨_, .uid hframe hhigh hhighLength hlow hlowLength, hread⟩
    | url scheme body =>
      rcases spells_encode_url _ _ h with ⟨hscheme, hlength, hread⟩
      exact ⟨_, .url hframe hscheme hlength, hread⟩
    | tlm => cases h
    | eid => cases h
    | reserved => cases h
  · rename_i beacon hframe
    cases h
    exact ⟨_, .iBeacon hframe, beacon.spells_encode b.flags b.txPower⟩

end BleBeacon
