import Mathlib
import BleBeacon.Capture.Reader
import BleBeacon.Proofs.Bytes

/-!
# Records in a stream

A record is written as a fixed part and its data, and no other bytes are read as it.  So bytes start
with at most one record that is complete and short enough, and when there is none the reader says
why.
-/

namespace BleBeacon.Capture

/-! ## Fixed parts -/

theorem slices_append {a b c d e : Bytes} (ha : a.length = 4) (hb : b.length = 4)
    (hc : c.length = 4) (hd : d.length = 4) (he : e.length = 8) :
    (a ++ (b ++ (c ++ (d ++ e)))).take 4 = a ∧
    ((a ++ (b ++ (c ++ (d ++ e)))).drop 4).take 4 = b ∧
    ((a ++ (b ++ (c ++ (d ++ e)))).drop 8).take 4 = c ∧
    ((a ++ (b ++ (c ++ (d ++ e)))).drop 12).take 4 = d ∧
    ((a ++ (b ++ (c ++ (d ++ e)))).drop 16).take 8 = e := by
  refine ⟨List.take_left' ha, Bytes.take_drop_middle ha hb, ?_, ?_, ?_⟩
  · rw [← List.append_assoc a]
    exact Bytes.take_drop_middle (by simp only [List.length_append, ha, hb]) hc
  · rw [← List.append_assoc a, ← List.append_assoc (a ++ b)]
    exact Bytes.take_drop_middle (by simp only [List.length_append, ha, hb, hc]) hd
  · rw [← List.append_assoc a, ← List.append_assoc (a ++ b), ← List.append_assoc (a ++ b ++ c),
      List.drop_left' (by simp only [List.length_append, ha, hb, hc, hd]), ← he, List.take_length]

theorem append_slices {fixed : Bytes} (h : fixed.length = recordHeaderLength) :
    fixed.take 4 ++ ((fixed.drop 4).take 4 ++ ((fixed.drop 8).take 4 ++ ((fixed.drop 12).take 4 ++
      (fixed.drop 16).take 8))) = fixed := by
  have hlast : (fixed.drop 16).take 8 = fixed.drop 16 := by
    apply List.take_of_length_le
    rw [List.length_drop, h, recordHeaderLength]
  have hjoin : ∀ n, (fixed.drop n).take 4 ++ fixed.drop (n + 4) = fixed.drop n := by
    intro n
    rw [← List.drop_drop, List.take_append_drop]
  rw [hlast, hjoin 12, hjoin 8, hjoin 4, List.take_append_drop]

namespace Record

/-- Records that are short enough to be read. -/
def Fits (r : Record) : Prop := r.data.length ≤ 65536

instance (r : Record) : Decidable r.Fits := inferInstanceAs (Decidable (r.data.length ≤ 65536))

/-- The bytes of a record in front of its data. -/
def fixedPart (r : Record) : Bytes :=
  Bytes.ofNatBE 4 r.wireLength.toNat ++ (Bytes.ofNatBE 4 r.data.length ++
    (Bytes.ofNatBE 4 r.flags.toNat ++ (Bytes.ofNatBE 4 r.drops.toNat ++
      Bytes.ofNatBE 8 r.timestamp.toUInt64.toNat)))

theorem serialize_eq (r : Record) : r.serialize = r.fixedPart ++ r.data := by
  simp only [serialize, fixedPart, List.append_assoc]

theorem length_fixedPart (r : Record) : r.fixedPart.length = recordHeaderLength := by
  simp only [fixedPart, List.length_append, Bytes.length_ofNatBE]
  rfl

theorem slices_fixedPart (r : Record) :
    r.fixedPart.take 4 = Bytes.ofNatBE 4 r.wireLength.toNat ∧
    (r.fixedPart.drop 4).take 4 = Bytes.ofNatBE 4 r.data.length ∧
    (r.fixedPart.drop 8).take 4 = Bytes.ofNatBE 4 r.flags.toNat ∧
    (r.fixedPart.drop 12).take 4 = Bytes.ofNatBE 4 r.drops.toNat ∧
    (r.fixedPart.drop 16).take 8 = Bytes.ofNatBE 8 r.timestamp.toUInt64.toNat :=
  slices_append (Bytes.length_ofNatBE 4 _) (Bytes.length_ofNatBE 4 _) (Bytes.length_ofNatBE 4 _)
    (Bytes.length_ofNatBE 4 _) (Bytes.length_ofNatBE 8 _)

theorem recordOf_fixedPart (r : Record) : Reader.recordOf r.fixedPart r.data = r := by
  obtain ⟨hwire, -, hflags, hdrops, htime⟩ := r.slices_fixedPart
  rw [Reader.recordOf, hwire, hflags, hdrops, htime, Bytes.toUInt32_beNat_ofNatBE,
    Bytes.toUInt32_beNat_ofNatBE, Bytes.toUInt32_beNat_ofNatBE, Bytes.toInt64_beNat_ofNatBE]

theorem fixedPart_recordOf {fixed data : Bytes} (hlength : fixed.length = recordHeaderLength)
    (hdata : Bytes.beNat ((fixed.drop 4).take 4) = data.length) :
    (Reader.recordOf fixed data).fixedPart = fixed := by
  have hslice : ∀ n k, n + k ≤ recordHeaderLength → ((fixed.drop n).take k).length = k := by
    intro n k hle
    rw [List.length_take, List.length_drop, hlength]
    omega
  have hfirst : (fixed.take 4).length = 4 := hslice 0 4 (by decide)
  rw [fixedPart, Reader.recordOf]
  dsimp only
  rw [Bytes.ofNatBE_toUInt32_beNat hfirst, ← hdata,
    Bytes.ofNatBE_beNat (hslice 4 4 (by decide)),
    Bytes.ofNatBE_toUInt32_beNat (hslice 8 4 (by decide)),
    Bytes.ofNatBE_toUInt32_beNat (hslice 12 4 (by decide)),
    Bytes.ofNatBE_toInt64_beNat (hslice 16 8 (by decide))]
  exact append_slices hlength

end Record

/-! ## What bytes start with -/

/-- The length that a fixed part claims for the data behind it. -/
def claimedLength (bytes : Bytes) : Nat := Bytes.beNat ((bytes.drop 4).take 4)

/-- Bytes that do not start with a record that is complete and short enough. -/
def Torn (bytes : Bytes) : Prop :=
  ∀ (r : Record) (rest : Bytes), r.Fits → bytes ≠ r.serialize ++ rest

/-- What is wrong with torn bytes, if there are any. -/
def faultOf (bytes : Bytes) : Fault :=
  if bytes.length < 24 then .recordHeaderTruncated
  else if 65536 < claimedLength bytes then .recordTooLong (claimedLength bytes)
  else .recordDataTruncated

/-- What the reader says where bytes are torn. -/
def endOf (bytes : Bytes) : Except ReadError (Option Record) :=
  if bytes = [] then .ok none else .error (.fault (faultOf bytes))

theorem claimedLength_take (bytes : Bytes) :
    claimedLength (bytes.take recordHeaderLength) = claimedLength bytes := by
  rw [claimedLength, List.drop_take, List.take_take]
  rfl

theorem claimedLength_serialize {r : Record} (h : r.Fits) (back : Bytes) :
    claimedLength (r.serialize ++ back) = r.data.length := by
  have hlt : r.data.length < 256 ^ 4 := Nat.lt_of_le_of_lt h (by decide)
  have hfixed : (r.serialize ++ back).take recordHeaderLength = r.fixedPart := by
    rw [r.serialize_eq, List.append_assoc, List.take_left' r.length_fixedPart]
  rw [← claimedLength_take, hfixed, claimedLength, r.slices_fixedPart.2.1, Bytes.beNat_ofNatBE,
    Nat.mod_eq_of_lt hlt]

theorem Record.length_serialize (r : Record) :
    r.serialize.length = recordHeaderLength + r.data.length := by
  rw [r.serialize_eq, List.length_append, r.length_fixedPart]

theorem Record.serialize_ne_nil (r : Record) : r.serialize ≠ [] := by
  have hlength := r.length_serialize
  intro hnil
  rw [hnil, List.length_nil, recordHeaderLength] at hlength
  omega

-- A record that is written ends where its own length says, whatever follows it.
theorem Record.serialize_append_inj {r r' : Record} {rest rest' : Bytes} (h : r.Fits)
    (h' : r'.Fits) (heq : r.serialize ++ rest = r'.serialize ++ rest') : r = r' ∧ rest = rest' := by
  have hdata : r.data.length = r'.data.length := by
    rw [← claimedLength_serialize h rest, heq, claimedLength_serialize h']
  have hlength : r.serialize.length = r'.serialize.length := by
    rw [r.length_serialize, r'.length_serialize, hdata]
  obtain ⟨hserialize, hrest⟩ := List.append_inj heq hlength
  rw [r.serialize_eq, r'.serialize_eq] at hserialize
  have hparts := List.append_inj hserialize (by rw [r.length_fixedPart, r'.length_fixedPart])
  rw [← r.recordOf_fixedPart, hparts.1, hparts.2, r'.recordOf_fixedPart]
  exact ⟨rfl, hrest⟩

/-- The first record of bytes that hold as much as they claim. -/
def firstRecord (bytes : Bytes) : Record :=
  Reader.recordOf (bytes.take recordHeaderLength)
    ((bytes.drop recordHeaderLength).take (claimedLength bytes))

theorem serialize_firstRecord {bytes : Bytes}
    (h : recordHeaderLength + claimedLength bytes ≤ bytes.length) :
    (firstRecord bytes).serialize ++ (bytes.drop recordHeaderLength).drop (claimedLength bytes) =
      bytes := by
  have hfixed : (bytes.take recordHeaderLength).length = recordHeaderLength := by
    rw [List.length_take]
    omega
  have hdata : claimedLength (bytes.take recordHeaderLength) =
      ((bytes.drop recordHeaderLength).take (claimedLength bytes)).length := by
    rw [claimedLength_take, List.length_take, List.length_drop]
    omega
  rw [Record.serialize_eq, firstRecord, Record.fixedPart_recordOf hfixed hdata, List.append_assoc]
  show _ ++ ((bytes.drop recordHeaderLength).take (claimedLength bytes) ++ _) = bytes
  rw [List.take_append_drop, List.take_append_drop]

theorem fits_firstRecord {bytes : Bytes} (h : claimedLength bytes ≤ maxRecordLength) :
    (firstRecord bytes).Fits :=
  (List.length_take_le ..).trans h

/-- Bytes are torn for one of the three reasons that `faultOf` tells apart. -/
theorem torn_iff {bytes : Bytes} :
    Torn bytes ↔ bytes.length < recordHeaderLength ∨ maxRecordLength < claimedLength bytes ∨
      bytes.length < recordHeaderLength + claimedLength bytes := by
  constructor
  · intro htorn
    by_contra hnot
    simp only [not_or, Nat.not_lt] at hnot
    exact htorn _ _ (fits_firstRecord hnot.2.1) (serialize_firstRecord hnot.2.2).symm
  · intro hreason r rest hfits heq
    have hlength : bytes.length = recordHeaderLength + r.data.length + rest.length := by
      rw [heq, List.length_append, r.length_serialize]
    rw [heq, claimedLength_serialize hfits, ← heq] at hreason
    have hlong : r.data.length ≤ maxRecordLength := hfits
    omega

instance : DecidablePred Torn := fun _ ↦ decidable_of_iff' _ torn_iff

namespace Reader

/-! ## One call of the reader -/

theorem take_ofBytes (bytes : Bytes) (n : Nat) (short : Fault) :
    (Stream.ofBytes bytes).take n short =
      if n ≤ bytes.length then (.ok (bytes.take n), .ofBytes (bytes.drop n))
      else (.error (.fault short), .ofBytes []) :=
  rfl

theorem next_ofBytes (datalink : Datalink) (bytes : Bytes) :
    (Reader.mk datalink (.ofBytes bytes)).next =
      if bytes = [] then (.ok none, ⟨datalink, .ofBytes []⟩)
      else if bytes.length < recordHeaderLength then
        (.error (.fault .recordHeaderTruncated), ⟨datalink, .ofBytes []⟩)
      else if maxRecordLength < claimedLength bytes then
        (.error (.fault (.recordTooLong (claimedLength bytes))),
          ⟨datalink, .ofBytes (bytes.drop recordHeaderLength)⟩)
      else if bytes.length < recordHeaderLength + claimedLength bytes then
        (.error (.fault .recordDataTruncated), ⟨datalink, .ofBytes []⟩)
      else
        (.ok (some (firstRecord bytes)),
          ⟨datalink, .ofBytes ((bytes.drop recordHeaderLength).drop (claimedLength bytes))⟩) := by
  have hclaim : Bytes.beNat (((bytes.take recordHeaderLength).drop 4).take 4) =
      claimedLength bytes := claimedLength_take bytes
  by_cases hempty : bytes = []
  · subst hempty
    rfl
  by_cases hshort : bytes.length < recordHeaderLength
  · have hle : ¬recordHeaderLength ≤ bytes.length := Nat.not_le.mpr hshort
    simp only [next, Stream.ofBytes, Stream.take, hempty, hle, hshort, ↓reduceIte]
  have hle : recordHeaderLength ≤ bytes.length := Nat.not_lt.mp hshort
  by_cases hlong : maxRecordLength < claimedLength bytes
  · simp only [next, Stream.ofBytes, Stream.take, hempty, hle, hshort, hclaim, hlong, ↓reduceIte]
  by_cases hcut : bytes.length < recordHeaderLength + claimedLength bytes
  · have hdata : ¬claimedLength bytes ≤ (bytes.drop recordHeaderLength).length := by
      rw [List.length_drop]
      omega
    simp only [next, Stream.ofBytes, Stream.take, hempty, hle, hshort, hclaim, hlong, hdata, hcut,
      ↓reduceIte]
  · have hdata : claimedLength bytes ≤ (bytes.drop recordHeaderLength).length := by
      rw [List.length_drop]
      omega
    simp only [next, Stream.ofBytes, Stream.take, hempty, hle, hshort, hclaim, hlong, hdata, hcut,
      ↓reduceIte, firstRecord]

theorem next_serialize (datalink : Datalink) {r : Record} (h : r.Fits) (rest : Bytes) :
    (Reader.mk datalink (.ofBytes (r.serialize ++ rest))).next =
      (.ok (some r), ⟨datalink, .ofBytes rest⟩) := by
  have hne : r.serialize ++ rest ≠ [] := by
    simp only [ne_eq, List.append_eq_nil_iff, r.serialize_ne_nil, false_and, not_false_eq_true]
  have hclaim : claimedLength (r.serialize ++ rest) = r.data.length :=
    claimedLength_serialize h rest
  have hlength : (r.serialize ++ rest).length =
      recordHeaderLength + r.data.length + rest.length := by
    rw [List.length_append, r.length_serialize]
  have hlong : ¬maxRecordLength < claimedLength (r.serialize ++ rest) := by
    rw [hclaim]
    exact Nat.not_lt.mpr h
  obtain ⟨hrecord, hrest⟩ := Record.serialize_append_inj (fits_firstRecord (Nat.not_lt.mp hlong)) h
    (serialize_firstRecord (by omega))
  rw [next_ofBytes, if_neg hne, if_neg (by omega), if_neg hlong, if_neg (by omega), hrecord, hrest]

theorem next_torn (datalink : Datalink) {bytes : Bytes} (h : Torn bytes) :
    (Reader.mk datalink (.ofBytes bytes)).next.1 = endOf bytes := by
  have hfault : faultOf bytes =
      if bytes.length < recordHeaderLength then .recordHeaderTruncated
      else if maxRecordLength < claimedLength bytes then .recordTooLong (claimedLength bytes)
      else .recordDataTruncated := rfl
  rw [torn_iff] at h
  rw [next_ofBytes, endOf, hfault]
  split_ifs with hempty hshort hlong hcut
  · rfl
  · rfl
  · rfl
  · rfl
  · simp only [hshort, hlong, hcut, or_self] at h

end Reader

end BleBeacon.Capture
