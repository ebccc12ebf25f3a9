import Mathlib
import BleBeacon.Proofs.Beacon.RoundTrip

/-!
# The count in front of encoded beacons

The count should cover the structures and leave out the padding.  It does for URLs and iBeacons.
The structures of a UID take thirty-one bytes and are counted as thirty, so whoever trusts the count
loses the last byte, and the whole frame with it.
-/

namespace BleBeacon

/-- A count that tells which bytes of a payload matter. -/
structure TruthfulCount (kind : BeaconKind) (count : Nat) (payload : Bytes) : Prop where
  short : count ≤ 31
  inside : count ≤ payload.length
  complete : ∃ structures : List AdStructure, adItems (payload.take count) = structures.map .ok ∧
    structures.flatMap AdStructure.serialize = payload.take count
  padding : ∀ byte ∈ payload.drop count, byte = 0
  sufficient : ∃ b, kind.recognize (payload.take count) = .ok (some b) ∧
    kind.recognize payload = .ok (some b)

-- Bytes that only give an error behind the count rule it out.
theorem not_truthfulCount_of_recognize_error {kind : BeaconKind} {count : Nat} {payload : Bytes}
    {e : DecodeError} (h : kind.recognize (payload.take count) = .error e) :
    ¬ TruthfulCount kind count payload := by
  intro htruthful
  rcases htruthful.sufficient with ⟨b, hb, -⟩
  rw [h] at hb
  cases hb

/-! ## A frame that is cut off -/

/-- The flags and the list of services take seven bytes, and the frame starts with its length. -/
theorem take_eddystoneStructures (flags : AdFlags) (frame : Bytes) (n : Nat) :
    ((eddystoneStructures flags frame).flatMap AdStructure.serialize).take (8 + n) =
      ((eddystoneStructures flags frame).take 2).flatMap AdStructure.serialize ++
        UInt8.ofNat (frame.length + 3) ::
          (AdType.serviceData.code :: (eddystoneService ++ frame)).take n := by
  have hlength : (eddystoneService ++ frame).length + 1 = frame.length + 3 := by
    rw [List.length_append, show eddystoneService.length = 2 from rfl]
    omega
  have hfront : (((eddystoneStructures flags frame).take 2).flatMap
      AdStructure.serialize).length = 7 := rfl
  have hsplit : (eddystoneStructures flags frame).flatMap AdStructure.serialize =
      ((eddystoneStructures flags frame).take 2).flatMap AdStructure.serialize ++
        UInt8.ofNat (frame.length + 3) ::
          AdType.serviceData.code :: (eddystoneService ++ frame) := by
    rw [← hlength]
    simp [eddystoneStructures, AdStructure.serialize]
  rw [hsplit, List.take_append, List.take_of_length_le (by omega), hfront,
    show 8 + n - 7 = n + 1 by omega, List.take_succ_cons]

theorem recognize_take_eddystoneStructures (flags : AdFlags) (frame : Bytes) (n : Nat)
    (hlength : frame.length ≤ 252) (hn : n < frame.length + 3) :
    BeaconKind.eddystone.recognize
        (((eddystoneStructures flags frame).flatMap AdStructure.serialize).take (8 + n)) =
      .error (.truncatedStructure 7 (frame.length + 3) n) := by
  have hlaid : AdStructure.LaidFrom 0 ((eddystoneStructures flags frame).take 2) := by
    obtain ⟨hflags, hflagsLength, hlist, hlistLength, -⟩ :=
      laidFrom_eddystoneStructures flags frame hlength
    exact ⟨hflags, hflagsLength, hlist, hlistLength, trivial⟩
  have hdeclared : (UInt8.ofNat (frame.length + 3)).toNat = frame.length + 3 := by
    rw [UInt8.toNat_ofNat']
    omega
  have hremaining :
      ((AdType.serviceData.code :: (eddystoneService ++ frame)).take n).length = n := by
    rw [List.length_take, List.length_cons, List.length_append,
      show eddystoneService.length = 2 from rfl]
    omega
  rw [BeaconKind.recognize, take_eddystoneStructures, adItems_serialize _ _ hlaid,
    AdWalk.items_truncated _ _ _ (by rw [hremaining, hdeclared]; exact hn), hremaining, hdeclared]
  -- Neither of the structures in front is service data.
  rw [eddystoneStructures]
  simp only [List.take_succ_cons, List.take_zero, List.map_cons, List.map_nil, List.cons_append,
    List.nil_append]
  rw [findEddystone, if_neg (by simp), findEddystone,
    if_neg (by simp [AdStructure.isEddystoneData, AdType.code]), findEddystone]
  rfl

/-! ## Layouts and their counts -/

namespace AdvertisingData.Carries

variable {b : Beacon} {d : AdvertisingData}

theorem laidFrom (h : d.Carries b) : AdStructure.LaidFrom 0 d.structures := by
  cases h with
  | uid hframe hhigh hhighLength hlow hlowLength =>
    apply laidFrom_eddystoneStructures
    rw [length_uidFrame _ hhighLength hlowLength]
    decide
  | url hframe hscheme hlength =>
    apply laidFrom_eddystoneStructures
    rw [length_urlFrame]
    rw [Url.maxLength] at hlength
    omega
  | iBeacon hframe =>
    apply laidFrom_iBeaconStructures
    rw [IBeacon.length_content]
    decide

theorem length_payload (h : d.Carries b) : d.payload.length = 31 := by
  rw [AdvertisingData.length_payload, significant]
  cases h with
  | uid hframe hhigh hhighLength hlow hlowLength =>
    rw [length_eddystoneStructures, length_uidFrame _ hhighLength hlowLength]
    rfl
  | url hframe hscheme hlength =>
    have hmaxLength : Url.maxLength = 17 := rfl
    rw [length_eddystoneStructures, length_urlFrame]
    dsimp only
    omega
  | iBeacon hframe =>
    rw [length_iBeaconStructures, IBeacon.length_content]
    rfl

theorem truthfulCount_significant (h : d.Carries b) :
    TruthfulCount b.kind d.significant.length d.payload where
  short := by
    rw [← h.length_payload, AdvertisingData.length_payload]
    exact Nat.le_add_right _ _
  inside := by
    rw [AdvertisingData.length_payload]
    exact Nat.le_add_right _ _
  complete := by
    refine ⟨d.structures, ?_, d.take_payload.symm⟩
    have hitems := adItems_serialize d.structures [] h.laidFrom
    rw [List.append_nil, AdWalk.items_nil, List.append_nil] at hitems
    rw [take_payload]
    exact hitems
  padding := by
    intro byte hbyte
    rw [drop_payload] at hbyte
    exact List.eq_of_mem_replicate hbyte
  sufficient := by
    refine ⟨b.onAir, ?_, h.recognize _⟩
    have hrecognize := h.recognize []
    rw [List.append_nil] at hrecognize
    rw [take_payload]
    exact hrecognize

theorem count_eq (h : d.Carries b)
    (hother : ∀ namespaceId instanceId, b.frame ≠ .eddystone (.uid namespaceId instanceId)) :
    d.count.toNat = d.significant.length := by
  rw [significant]
  cases h with
  | uid hframe => exact absurd hframe (hother _ _)
  | url hframe hscheme hlength =>
    rw [Url.maxLength] at hlength
    rw [length_eddystoneStructures, length_urlFrame, UInt8.toNat_ofNat']
    omega
  | iBeacon hframe =>
    rw [length_iBeaconStructures, IBeacon.length_content]
    rfl

theorem count_uid (h : d.Carries b) {namespaceId instanceId : String}
    (hframe : b.frame = .eddystone (.uid namespaceId instanceId)) :
    d.count = 30 ∧ d.significant.length = 31 ∧
      BeaconKind.eddystone.recognize (d.payload.take 30) =
        .error (.truncatedStructure 7 23 22) := by
  cases h with
  | uid hframe hhigh hhighLength hlow hlowLength =>
    have hlength := length_uidFrame b.txPower hhighLength hlowLength
    refine ⟨rfl, ?_, ?_⟩
    · rw [significant, length_eddystoneStructures, hlength]
    · have hcut := recognize_take_eddystoneStructures b.flags _ 22
        (show _ ≤ 252 by rw [hlength]; decide) (show 22 < _ by rw [hlength]; decide)
      rw [hlength] at hcut
      rw [payload, List.replicate_zero, List.append_nil]
      exact hcut
  | url hurl =>
    rw [hurl] at hframe
    cases hframe
  | iBeacon hbeacon =>
    rw [hbeacon] at hframe
    cases hframe

end AdvertisingData.Carries

/-! ## Encoded beacons -/

/-- The count is right for every beacon that can be encoded but for UIDs, which are one byte longer
than they say.  Of these the right count would be 31; with the one they have, the structure of the
frame is cut off and the format finds an error where it would find the beacon. -/
theorem truthfulCount_of_tryEncode_iff {b : Beacon} {text : String} (h : b.tryEncode = .ok text) :
    ∃ count payload, Hex.decode text = .ok (count :: payload) ∧ payload.length = 31 ∧
      (TruthfulCount b.kind count.toNat payload ↔
        ∀ namespaceId instanceId, b.frame ≠ .eddystone (.uid namespaceId instanceId)) ∧
      (∀ namespaceId instanceId, b.frame = .eddystone (.uid namespaceId instanceId) →
        count = 30 ∧ TruthfulCount b.kind 31 payload ∧
          b.kind.recognize (payload.take 30) = .error (.truncatedStructure 7 23 22)) := by
  rcases exists_carries_of_tryEncode h with ⟨d, hcarries, hspells⟩
  have htruthful := hcarries.truthfulCount_significant
  have huid : ∀ namespaceId instanceId, b.frame = .eddystone (.uid namespaceId instanceId) →
      d.count = 30 ∧ TruthfulCount b.kind 31 d.payload ∧
        b.kind.recognize (d.payload.take 30) = .error (.truncatedStructure 7 23 22) := by
    intro namespaceId instanceId hframe
    rcases hcarries.count_uid hframe with ⟨hcount, hlength, hcut⟩
    rw [hlength] at htruthful
    have hkind : b.kind = .eddystone := by rw [Beacon.kind, hframe]
    exact ⟨hcount, htruthful, by rw [hkind, hcut]⟩
  refine ⟨d.count, d.payload, hspells.decode_eq, hcarries.length_payload, ⟨?_, ?_⟩, huid⟩
  · intro hcount namespaceId instanceId hframe
    rcases huid namespaceId instanceId hframe with ⟨hthirty, -, hcut⟩
    rw [hthirty] at hcount
    exact not_truthfulCount_of_recognize_error hcut hcount
  · intro hother
    rw [hcarries.count_eq hother]
    exact htruthful

/-- An iBeacon without an identifier. -/
def zeroIBeacon : Beacon := .ofFrame (.iBeacon ⟨⟨.zero 16⟩, 1, 2⟩) (-59)

theorem truthfulCount_of_tryEncode_zeroIBeacon :
    zeroIBeacon.tryEncode =
      .ok "1e02011a1aff4c0002150000000000000000000000000000000000010002c500" ∧
    ∃ count payload,
      Hex.decode "1e02011a1aff4c0002150000000000000000000000000000000000010002c500" =
        .ok (count :: payload) ∧
      TruthfulCount .iBeacon count.toNat payload := by
  have hencode : zeroIBeacon.tryEncode =
      .ok "1e02011a1aff4c0002150000000000000000000000000000000000010002c500" := by decide +kernel
  rcases truthfulCount_of_tryEncode_iff hencode with ⟨count, payload, hdecode, -, htruthful, -⟩
  refine ⟨hencode, count, payload, hdecode, htruthful.mpr ?_⟩
  intro namespaceId instanceId hframe
  cases hframe

/-- A UID of sixteen bytes in order. -/
def countingUid : Beacon :=
  .ofFrame (.eddystone (.uid "00010203040506070809" "0a0b0c0d0e0f")) (-21)

theorem not_truthfulCount_countingUid :
    countingUid.tryEncode =
      .ok "1e02011a0303aafe1716aafe00eb000102030405060708090a0b0c0d0e0f0000" ∧
    ∃ count payload,
      Hex.decode "1e02011a0303aafe1716aafe00eb000102030405060708090a0b0c0d0e0f0000" =
        .ok (count :: payload) ∧
      ¬ TruthfulCount .eddystone count.toNat payload := by
  have hencode : countingUid.tryEncode =
      .ok "1e02011a0303aafe1716aafe00eb000102030405060708090a0b0c0d0e0f0000" := by decide +kernel
  rcases exists_carries_of_tryEncode hencode with ⟨d, hcarries, hspells⟩
  rcases hcarries.count_uid rfl with ⟨hcount, -, hcut⟩
  refine ⟨hencode, d.count, d.payload, hspells.decode_eq, ?_⟩
  rw [hcount]
  exact not_truthfulCount_of_recognize_error hcut

end BleBeacon
