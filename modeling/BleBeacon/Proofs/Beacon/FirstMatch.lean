import Mathlib
import BleBeacon.Proofs.AdLayout
import BleBeacon.Proofs.Beacon.Readings

/-!
# The first match

A format passes over the structures of a payload, keeps what it has seen of them, and stops at the
first one that it takes for a beacon.  Said without the pass, that is the match with the least
index, read with the flags that stand last before it; and where nothing matches, it is what the end
of the payload gives.
-/

namespace BleBeacon

variable {structures passed : List AdStructure} {s : AdStructure}

/-! ## What stands before a structure -/

/-- The flags that a structure declares.  Without data it declares none. -/
def AdStructure.flags? (s : AdStructure) : Option AdFlags :=
  if s.type = 0x01 then s.data.head?.map .ofByte else none

/-- The flags that are declared last. -/
def AdFlags.ofStructures (structures : List AdStructure) : AdFlags :=
  (structures.filterMap AdStructure.flags?).getLast?.getD .none

theorem AdFlags.after_eq (flags : AdFlags) (s : AdStructure) :
    flags.after s = s.flags?.getD flags := by
  obtain ⟨offset, type, data⟩ := s
  rw [after, AdStructure.flags?]
  dsimp only
  by_cases htype : type = 0x01
  · rw [if_pos htype, if_pos (show type = AdType.flags.code from htype)]
    cases data <;> rfl
  · rw [if_neg htype, if_neg (show type ≠ AdType.flags.code from htype)]
    rfl

theorem AdFlags.ofStructures_concat (passed : List AdStructure) (s : AdStructure) :
    ofStructures (passed ++ [s]) = (ofStructures passed).after s := by
  rw [after_eq, ofStructures, List.filterMap_append]
  cases hflags : s.flags? with
  | none => simp [ofStructures, hflags]
  | some flags => simp [hflags]

/-! ## Matches -/

namespace BeaconKind

variable {kind : BeaconKind} {result : Except DecodeError (Option Beacon)}

/-- Whether a format takes a structure for a beacon when these structures stand before it. -/
def Matches (kind : BeaconKind) (passed : List AdStructure) (s : AdStructure) : Prop :=
  match kind with
  | .eddystone => s.type = 0x16 ∧ [0xAA, 0xFE] <+: s.data ∧
      ∃ list ∈ passed, list.type = 0x03 ∧ [0xAA, 0xFE] <+: list.data
  | .iBeacon => s.type = 0xFF ∧ [0x4C, 0x00, 0x02, 0x15] <+: s.data

instance (kind : BeaconKind) (passed : List AdStructure) (s : AdStructure) :
    Decidable (kind.Matches passed s) :=
  match kind with
  | .eddystone => inferInstanceAs (Decidable (_ ∧ _ ∧ _))
  | .iBeacon => inferInstanceAs (Decidable (_ ∧ _))

def MatchesAt (kind : BeaconKind) (structures : List AdStructure) (i : Nat) : Prop :=
  ∃ s ∈ structures[i]?, kind.Matches (structures.take i) s

instance (kind : BeaconKind) (structures : List AdStructure) (i : Nat) :
    Decidable (kind.MatchesAt structures i) :=
  inferInstanceAs (Decidable (∃ s ∈ structures[i]?, kind.Matches (structures.take i) s))

/-- What a format makes of the data of a match. -/
def Reads (kind : BeaconKind) (flags : AdFlags) (data : Bytes)
    (result : Except DecodeError (Option Beacon)) : Prop :=
  match kind with
  | .eddystone => EddystoneReading flags (data.drop 2) result
  | .iBeacon => IBeaconReading flags data result

/-! ## The pass -/

/-- What a format finds among items when it has passed over these structures before them. -/
def find (kind : BeaconKind) (passed : List AdStructure)
    (items : List (Except DecodeError AdStructure)) : Except DecodeError (Option Beacon) :=
  match kind with
  | .eddystone => findEddystone (.ofStructures passed) (passed.any AdStructure.listsEddystone) items
  | .iBeacon => findIBeacon (.ofStructures passed) items

variable {items : List (Except DecodeError AdStructure)}

theorem recognize_eq_find (kind : BeaconKind) (payload : Bytes) :
    kind.recognize payload = kind.find [] (adItems payload) := by
  cases kind <;> rfl

theorem matches_eddystone_iff :
    Matches .eddystone passed s ↔
      (passed.any AdStructure.listsEddystone && s.isEddystoneData) = true := by
  simp only [Matches, AdStructure.listsEddystone, AdStructure.isEddystoneData, Bool.and_eq_true,
    List.any_eq_true, beq_iff_eq, List.isPrefixOf_iff_prefix, AdType.code, eddystoneService]
  tauto

theorem matches_iBeacon_iff : Matches .iBeacon passed s ↔ s.isIBeaconData = true := by
  simp only [Matches, AdStructure.isIBeaconData, Bool.and_eq_true, beq_iff_eq,
    List.isPrefixOf_iff_prefix, AdType.code, iBeaconHeader]

theorem find_ok_of_matches (h : kind.Matches passed s) :
    kind.find passed (.ok s :: items) = result ↔
      kind.Reads (.ofStructures passed) s.data result := by
  cases kind with
  | eddystone =>
    rw [find, findEddystone, if_pos (matches_eddystone_iff.mp h), Reads]
    exact decodeServiceData_eq_iff
  | iBeacon =>
    rw [find, findIBeacon, if_pos (matches_iBeacon_iff.mp h), Reads]
    exact decodeManufacturerData_eq_iff

theorem find_ok_of_not_matches (h : ¬ kind.Matches passed s) :
    kind.find passed (.ok s :: items) = kind.find (passed ++ [s]) items := by
  cases kind with
  | eddystone =>
    rw [find, findEddystone, if_neg (mt matches_eddystone_iff.mpr h), find,
      AdFlags.ofStructures_concat, List.any_append, List.any_cons, List.any_nil, Bool.or_false]
  | iBeacon =>
    rw [find, findIBeacon, if_neg (mt matches_iBeacon_iff.mpr h), find,
      AdFlags.ofStructures_concat]

/-- Structures without a match are passed over. -/
theorem find_append (items : List (Except DecodeError AdStructure))
    (h : ∀ i, ∀ s ∈ structures[i]?, ¬ kind.Matches (passed ++ structures.take i) s) :
    kind.find passed (structures.map .ok ++ items) = kind.find (passed ++ structures) items := by
  induction structures generalizing passed with
  | nil => rw [List.map_nil, List.nil_append, List.append_nil]
  | cons s structures ih =>
    have hhead : ¬ kind.Matches passed s := by
      have hzero := h 0 s rfl
      rwa [List.take_zero, List.append_nil] at hzero
    have htail : ∀ i, ∀ s' ∈ structures[i]?,
        ¬ kind.Matches (passed ++ [s] ++ structures.take i) s' := by
      intro i s' hs'
      rw [List.append_assoc]
      exact h (i + 1) s' hs'
    rw [List.map_cons, List.cons_append, find_ok_of_not_matches hhead, ih htail, List.append_assoc,
      List.singleton_append]

theorem find_error (kind : BeaconKind) (passed : List AdStructure) (error? : Option DecodeError) :
    kind.find passed (error?.toList.map .error) = error?.elim (.ok none) .error := by
  cases kind <;> cases error? <;> rfl

/-- Nothing that stands before the first match is a match. -/
theorem not_matches_take_of_isLeast {i : Nat}
    (hleast : IsLeast {i | kind.MatchesAt structures i} i) (j : Nat) :
    ∀ s ∈ (structures.take i)[j]?, ¬ kind.Matches ((structures.take i).take j) s := by
  intro s hs hmatch
  rw [List.getElem?_take] at hs
  split at hs
  · rename_i hlt
    rw [List.take_take, Nat.min_eq_left (Nat.le_of_lt hlt)] at hmatch
    have hle : i ≤ j := hleast.2 ⟨s, hs, hmatch⟩
    omega
  · cases hs

theorem find_of_isLeast {i : Nat} (hleast : IsLeast {i | kind.MatchesAt structures i} i)
    (hs : structures[i]? = some s) :
    kind.find [] (structures.map .ok ++ items) = result ↔
      kind.Reads (.ofStructures (structures.take i)) s.data result := by
  have hmatch : kind.Matches (structures.take i) s := by
    obtain ⟨s', hs', hmatch⟩ := hleast.1
    rw [hs] at hs'
    cases hs'
    exact hmatch
  obtain ⟨hlt, rfl⟩ := List.getElem?_eq_some_iff.mp hs
  have hsplit : structures.map .ok ++ items =
      (structures.take i).map .ok ++ (.ok structures[i] ::
        ((structures.drop (i + 1)).map .ok ++ items)) := by
    conv_lhs => rw [← List.take_append_drop i structures, List.drop_eq_getElem_cons hlt]
    rw [List.map_append, List.map_cons, List.append_assoc, List.cons_append]
  rw [hsplit, find_append _ (not_matches_take_of_isLeast hleast), List.nil_append]
  exact find_ok_of_matches hmatch

theorem find_of_forall_not (h : ∀ i, ¬ kind.MatchesAt structures i) :
    kind.find [] (structures.map .ok ++ items) = kind.find structures items :=
  find_append items fun i s hs hmatch ↦ h i ⟨s, hs, hmatch⟩

/-- A format finds what it reads from the first match.  Without a match it finds nothing, or the
error of a structure that is cut off at the end. -/
theorem recognize_eq_iff_firstMatch (payload : Bytes) :
    (∃ structures stop, (AdWalk.ofPayload payload).Layout structures stop) ∧
    ∀ structures stop, (AdWalk.ofPayload payload).Layout structures stop →
      ∀ (kind : BeaconKind) (result : Except DecodeError (Option Beacon)),
        kind.recognize payload = result ↔
          (∃ i s, IsLeast {i | kind.MatchesAt structures i} i ∧ structures[i]? = some s ∧
            kind.Reads (.ofStructures (structures.take i)) s.data result) ∨
          (∀ i, ¬ kind.MatchesAt structures i) ∧
            result = (stop.error? (structures.flatMap AdStructure.serialize).length).elim
              (.ok none) .error := by
  refine ⟨AdWalk.exists_layout _, fun structures stop hlayout kind result ↦ ?_⟩
  rw [recognize_eq_find, adItems, hlayout.items]
  by_cases hfound : ∃ i, kind.MatchesAt structures i
  · have hleast : IsLeast {i | kind.MatchesAt structures i} (Nat.find hfound) :=
      ⟨Nat.find_spec hfound, fun j hj ↦ Nat.find_min' hfound hj⟩
    obtain ⟨s, hs, -⟩ := hleast.1
    rw [find_of_isLeast hleast hs]
    constructor
    · exact fun hreads ↦ .inl ⟨_, s, hleast, hs, hreads⟩
    · rintro (⟨i, s', hleast', hs', hreads⟩ | ⟨hnone, -⟩)
      · obtain rfl := hleast.unique hleast'
        cases hs.symm.trans hs'
        exact hreads
      · exact absurd hleast.1 (hnone _)
  · push Not at hfound
    rw [find_of_forall_not hfound, find_error, AdWalk.ofPayload, Nat.zero_add]
    constructor
    · exact fun hresult ↦ .inr ⟨hfound, hresult.symm⟩
    · rintro (⟨i, -, hleast, -⟩ | ⟨-, hresult⟩)
      · exact absurd hleast.1 (hfound i)
      · exact hresult.symm

/-- Flags, service data before the list and behind it, flags in between that change, flags without
data that do not, and a structure that is cut off. -/
def crowdedStructures : List AdStructure :=
  [⟨0, 0x01, [0x06]⟩, ⟨3, 0x16, [0xAA, 0xFE, 0x20, 0x00]⟩, ⟨9, 0x03, [0xAA, 0xFE]⟩,
    ⟨13, 0x01, [0x1A]⟩, ⟨16, 0x01, []⟩, ⟨18, 0x16, [0xAA, 0xFE, 0x10, 0xEB, 0x03, 0x61]⟩]

def crowdedPayload : Bytes :=
  crowdedStructures.flatMap AdStructure.serialize ++ [0x05, 0xFF, 0x4C, 0x00]

theorem recognize_eq_iff_firstMatch_crowdedPayload :
    (AdWalk.ofPayload crowdedPayload).Layout crowdedStructures (.cutOff 5 3) ∧
    recognize .eddystone crowdedPayload =
      .ok (some ⟨⟨false, true, false, true, true⟩, -21, none, none,
        .eddystone (.url .https "a")⟩) ∧
    recognize .iBeacon crowdedPayload = .error (.truncatedStructure 26 5 3) := by
  have hlayout : (AdWalk.ofPayload crowdedPayload).Layout crowdedStructures (.cutOff 5 3) :=
    ⟨by simp [crowdedStructures, AdStructure.LaidFrom, AdStructure.serialize, AdWalk.ofPayload],
      ⟨_, rfl⟩, @AdEnd.At.cutOff 5 [0xFF, 0x4C, 0x00] (by decide)⟩
  have hbefore : ∀ i < 5, ¬ MatchesAt .eddystone crowdedStructures i := by decide
  have hleast : IsLeast {i | MatchesAt .eddystone crowdedStructures i} 5 :=
    ⟨show MatchesAt .eddystone crowdedStructures 5 by decide,
      fun i hi ↦ Nat.le_of_not_lt fun hlt ↦ hbefore i hlt hi⟩
  have hnone : ∀ i, ¬ MatchesAt .iBeacon crowdedStructures i := by
    rintro i ⟨s, hs, htype, -⟩
    have htypes : ∀ s ∈ crowdedStructures, s.type ≠ 0xFF := by decide
    exact htypes s (List.mem_of_getElem? hs) htype
  have hflags : (⟨false, true, false, true, true⟩ : AdFlags) = .ofByte 0x1A := by decide
  have hbody : "a" = Url.decode [0x61] := by decide +kernel
  refine ⟨hlayout, ?_, ?_⟩
  · rw [hflags, hbody]
    exact ((recognize_eq_iff_firstMatch crowdedPayload).2 _ _ hlayout .eddystone _).mpr
      (.inl ⟨5, _, hleast, rfl, .url⟩)
  · exact ((recognize_eq_iff_firstMatch crowdedPayload).2 _ _ hlayout .iBeacon _).mpr
      (.inr ⟨hnone, rfl⟩)

end BeaconKind

end BleBeacon
