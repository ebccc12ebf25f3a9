import Mathlib
import BleBeacon.Proofs.Address
import BleBeacon.Proofs.Text.Groups
import BleBeacon.Proofs.Text.Spelling

/-!
# Addresses read back

The text of an address reads as that address, and so does every text that differs from it in the
case of its letters.  A part of a text is a number that may have a sign, so these are not all texts
that are read: a plus sign may stand where a leading zero does.  All other texts are refused.
-/

namespace BleBeacon.DeviceAddress

/-- Groups of the two digits of a byte, in either case. -/
def IsPair (group : List Char) (b : UInt8) : Prop := group.map Char.toLower = Hex.byteDigits b

/-- Groups that are read as a byte: its digits, a leading zero among them perhaps as a plus sign. -/
def ReadsAs (group : List Char) (b : UInt8) : Prop :=
  IsPair group b ∨ ∃ low, group = ['+', low] ∧ IsPair ['0', low] b

/-- A character with a zero for the plus sign. -/
def unsigned (c : Char) : Char := if c = '+' then '0' else c

/-! ## Single groups -/

section

variable {group : List Char} {b : UInt8}

theorem isPair_iff_pair? {high low : Char} :
    IsPair [high, low] b ↔ Hex.pair? high low = some b := by
  rw [Hex.pair?_eq_some_iff, eq_comm]
  rfl

theorem IsPair.exists_eq (h : IsPair group b) :
    ∃ high low, group = [high, low] ∧ Hex.IsDigit high ∧ Hex.IsDigit low := by
  have hlength : group.length = 2 := by
    rw [← List.length_map Char.toLower, h]
    rfl
  obtain ⟨high, low, rfl⟩ := List.length_eq_two.mp hlength
  exact ⟨high, low, rfl, (Hex.exists_pair?_iff high low).mp ⟨b, isPair_iff_pair?.mp h⟩⟩

theorem IsPair.not_mem (h : IsPair group b) {c : Char} (hc : ¬ Hex.IsDigit c) : c ∉ group := by
  obtain ⟨high, low, rfl, hhigh, hlow⟩ := h.exists_eq
  intro hmem
  rcases List.mem_pair.mp hmem with rfl | rfl
  · exact hc hhigh
  · exact hc hlow

theorem isPair_byteDigits (b : UInt8) : IsPair (Hex.byteDigits b) b :=
  (Hex.pair?_eq_some_iff.mp (Hex.pair?_byteDigits b)).symm

theorem isPair_iff_toUpper : IsPair group b ↔ group.map Char.toUpper = upperPair b := by
  have hupper : ∀ cs : List Char, (cs.map Char.toLower).map Char.toUpper = cs.map Char.toUpper := by
    intro cs
    rw [List.map_map]
    exact List.map_congr_left fun c _ ↦ Char.toUpper_toLower_eq_toUpper c
  have hlower : ∀ cs : List Char, (cs.map Char.toUpper).map Char.toLower = cs.map Char.toLower := by
    intro cs
    rw [List.map_map]
    exact List.map_congr_left fun c _ ↦ Char.toLower_toUpper_eq_toLower c
  constructor
  · intro h
    rw [← hupper, h]
    rfl
  · intro h
    show group.map Char.toLower = Hex.byteDigits b
    rw [← hlower, h, upperPair, hlower]
    exact isPair_byteDigits b

theorem isPair_upperPair (b : UInt8) : IsPair (upperPair b) b := by
  rw [isPair_iff_toUpper, upperPair, List.map_map]
  exact List.map_congr_left fun c _ ↦ Char.toUpper_toUpper_eq_toUpper c

theorem partByte?_eq_some_iff : partByte? group = some b ↔ ReadsAs group b := by
  have hzero : ∀ low, Hex.pair? '0' low = (Hex.value? low).map UInt8.ofNat := by
    intro low
    unfold Hex.pair?
    rw [show Hex.value? '0' = some 0 from rfl]
    cases Hex.value? low <;> simp
  unfold partByte? ReadsAs
  split
  · rename_i low
    rw [← hzero, ← isPair_iff_pair?]
    constructor
    · intro h
      exact .inr ⟨low, rfl, h⟩
    · rintro (h | ⟨low', hlow, h⟩)
      · exact absurd (List.mem_cons_self ..) (h.not_mem (c := '+') (by decide))
      · cases hlow
        exact h
  · rename_i high low hsign
    rw [← isPair_iff_pair?]
    constructor
    · exact .inl
    · rintro (h | ⟨low', hplus, -⟩)
      · exact h
      · exact absurd (List.cons.inj hplus).1 hsign
  · rename_i hsign hpair
    constructor
    · intro h
      cases h
    · rintro (h | ⟨low, hlow, -⟩)
      · obtain ⟨high, low, hgroup, -⟩ := h.exists_eq
        exact absurd hgroup (hpair high low)
      · exact absurd hlow (hsign low)

theorem ReadsAs.exists_eq (h : ReadsAs group b) :
    ∃ first low, group = [first, low] ∧ (Hex.IsDigit first ∨ first = '+') ∧ Hex.IsDigit low := by
  rcases h with h | ⟨low, rfl, h⟩
  · obtain ⟨high, low, rfl, hhigh, hlow⟩ := h.exists_eq
    exact ⟨high, low, rfl, .inl hhigh, hlow⟩
  · obtain ⟨zero, low', heq, -, hlow⟩ := h.exists_eq
    cases heq
    exact ⟨'+', low, rfl, .inr rfl, hlow⟩

theorem ReadsAs.utf8Length_eq (h : ReadsAs group b) : utf8Length group = 2 := by
  have hone : ∀ c, Hex.IsDigit c → c.utf8Size = 1 := by
    intro c hc
    obtain ⟨n, hn⟩ := (Hex.exists_value?_iff c).mpr hc
    exact (Hex.digit_of_value? hn).2.1
  obtain ⟨first, low, rfl, hfirst, hlow⟩ := h.exists_eq
  have hfirst' : first.utf8Size = 1 := by
    rcases hfirst with hfirst | rfl
    · exact hone first hfirst
    · rfl
  show first.utf8Size + (low.utf8Size + 0) = 2
  rw [hfirst', hone low hlow]

theorem ReadsAs.not_mem_colon (h : ReadsAs group b) : ':' ∉ group := by
  obtain ⟨first, low, rfl, hfirst, hlow⟩ := h.exists_eq
  intro hmem
  rcases List.mem_pair.mp hmem with rfl | rfl
  · rcases hfirst with hfirst | hfirst
    · exact absurd hfirst (by decide)
    · exact absurd hfirst (by decide)
  · exact absurd hlow (by decide)

/-- Signs apart, groups that are read are pairs of digits. -/
theorem isPair_iff_readsAs : IsPair group b ↔ (∀ c ∈ group, c ≠ '+') ∧ ReadsAs group b := by
  constructor
  · intro h
    exact ⟨List.forall_mem_ne'.mpr (h.not_mem (by decide)), .inl h⟩
  · rintro ⟨hplus, h | ⟨low, rfl, -⟩⟩
    · exact h
    · exact absurd rfl (hplus '+' (List.mem_cons_self ..))

theorem ReadsAs.isPair_map_unsigned (h : ReadsAs group b) : IsPair (group.map unsigned) b := by
  have hdigit : ∀ c, Hex.IsDigit c → unsigned c = c := by
    intro c hc
    unfold unsigned
    by_cases hplus : c = '+'
    · rw [hplus] at hc
      exact absurd hc (by decide)
    · rw [if_neg hplus]
  rcases h with h | ⟨low, rfl, h⟩
  · obtain ⟨high, low, rfl, hhigh, hlow⟩ := h.exists_eq
    show IsPair [unsigned high, unsigned low] b
    rw [hdigit high hhigh, hdigit low hlow]
    exact h
  · obtain ⟨zero, low', heq, -, hlow⟩ := h.exists_eq
    cases heq
    show IsPair ['0', unsigned low] b
    rw [hdigit low hlow]
    exact h

end

/-! ## All groups of a text -/

theorem readParts_eq_ok_iff {groups : List (List Char)} (index : Nat) {bytes : Bytes} :
    readParts index groups = .ok bytes ↔ List.Forall₂ ReadsAs groups bytes := by
  induction groups generalizing index bytes with
  | nil =>
    rw [List.forall₂_nil_left_iff]
    unfold readParts
    exact ⟨fun h ↦ (Except.ok.inj h).symm, fun h ↦ by rw [h]⟩
  | cons group rest ih =>
    rw [List.forall₂_cons_left_iff]
    unfold readParts
    cases hread : partByte? group with
    | none =>
      constructor
      · intro h
        split at h <;> cases h
      · rintro ⟨b, bytes, hb, -⟩
        rw [partByte?_eq_some_iff.mpr hb] at hread
        cases hread
    | some b =>
      have hb := partByte?_eq_some_iff.mp hread
      rw [if_neg (not_not.mpr hb.utf8Length_eq)]
      constructor
      · intro h
        cases hrest : readParts (index + 1) rest with
        | error e =>
          simp only [hrest] at h
          cases h
        | ok more =>
          simp only [hrest] at h
          cases h
          exact ⟨b, more, hb, (ih (index + 1)).mp hrest, rfl⟩
      · rintro ⟨b', more, hb', hmore, rfl⟩
        have hsame : b' = b := by
          have hread' := partByte?_eq_some_iff.mpr hb'
          rw [hread] at hread'
          exact (Option.some.inj hread').symm
        simp only [(ih (index + 1)).mpr hmore, hsame]
        rfl

variable {s : String} {a : DeviceAddress}

theorem parse_eq_ok_iff : parse s = .ok a ↔ Grouped ':' ReadsAs s.toList a.bytes := by
  rw [Grouped.iff_splitOn (fun _ _ h ↦ h.not_mem_colon) a.bytes_ne_nil]
  unfold parse
  dsimp only
  split
  · split
    · rename_i hcount e hread
      constructor
      · intro h
        cases h
      · intro h
        rw [(readParts_eq_ok_iff 0).mpr h] at hread
        cases hread
    · rename_i hcount bytes hread
      constructor
      · intro h
        cases h
        exact (readParts_eq_ok_iff 0).mp hread
      · intro h
        rw [(readParts_eq_ok_iff 0).mpr h] at hread
        cases hread
        rfl
  · rename_i hcount
    constructor
    · intro h
      cases h
    · intro h
      exact absurd (h.length_eq.trans a.octets.2) hcount

theorem toUpper_eq_colon_iff (c : Char) : c.toUpper = ':' ↔ c = ':' := by
  constructor
  · intro h
    have halpha : c.isAlpha = false := by
      rw [← Char.isAlpha_toUpper_eq_isAlpha, h]
      rfl
    have hlower : ¬ c.isLower := by
      intro hlower
      rw [Char.isAlpha, hlower, Bool.or_true] at halpha
      cases halpha
    rwa [Char.toUpper_eq_of_not_isLower hlower] at h
  · intro h
    rw [h]
    rfl

theorem unsigned_eq_colon_iff (c : Char) : unsigned c = ':' ↔ c = ':' := by
  unfold unsigned
  by_cases hplus : c = '+'
  · rw [if_pos hplus, hplus]
    decide
  · rw [if_neg hplus]

/-- The texts of an address are its text, in either case. -/
theorem grouped_isPair_iff : Grouped ':' IsPair s.toList a.bytes ↔ s.toUpper = a.text := by
  have hfree : ∀ group b, group = upperPair b → ':' ∉ group := by
    rintro group b rfl
    exact colon_not_mem_upperPair b
  calc Grouped ':' IsPair s.toList a.bytes
      ↔ Grouped ':' (fun group b ↦ group.map Char.toUpper = upperPair b) s.toList a.bytes :=
        Grouped.congr (fun _ _ ↦ isPair_iff_toUpper) _ _
    _ ↔ Grouped ':' (fun group b ↦ group = upperPair b) (s.toList.map Char.toUpper) a.bytes :=
        (Grouped.map_iff hfree toUpper_eq_colon_iff a.bytes_ne_nil _).symm
    _ ↔ s.toList.map Char.toUpper = a.chars := Grouped.eq_iff upperPair a.bytes _
    _ ↔ s.toUpper = a.text := by
        rw [← String.toList_inj, String.toUpper, String.toList_map, text, String.toList_ofList]

theorem grouped_isPair_iff_readsAs : Grouped ':' IsPair s.toList a.bytes ↔
    '+' ∉ s.toList ∧ Grouped ':' ReadsAs s.toList a.bytes := by
  rw [← List.forall_mem_ne', ← Grouped.and_iff (by decide)]
  exact Grouped.congr (fun _ _ ↦ isPair_iff_readsAs) _ _

theorem grouped_isPair_map_unsigned (h : Grouped ':' ReadsAs s.toList a.bytes) :
    Grouped ':' IsPair (s.map unsigned).toList a.bytes := by
  obtain ⟨groups, hs, hgroups⟩ := h
  rw [String.toList_map, Grouped.map_iff (fun _ _ h ↦ h.not_mem (by decide)) unsigned_eq_colon_iff
    a.bytes_ne_nil]
  exact ⟨groups, hs, hgroups.imp fun _ _ h ↦ h.isPair_map_unsigned⟩

theorem grouped_text (a : DeviceAddress) : Grouped ':' IsPair a.text.toList a.bytes := by
  refine ⟨a.bytes.map upperPair, String.toList_ofList, ?_⟩
  rw [List.forall₂_map_left_iff, List.forall₂_same]
  exact fun b _ ↦ isPair_upperPair b

theorem parse_eq_error_iff : (∃ e, parse s = .error e) ↔
    ¬ ∃ a : DeviceAddress, Grouped ':' ReadsAs s.toList a.bytes := by
  constructor
  · rintro ⟨e, he⟩ ⟨a, ha⟩
    rw [parse_eq_ok_iff.mpr ha] at he
    cases he
  · intro hnot
    cases hparse : parse s with
    | error e => exact ⟨e, rfl⟩
    | ok a => exact absurd ⟨a, parse_eq_ok_iff.mp hparse⟩ hnot

/-- An address with digits of both cases in its texts. -/
def mixedAddress : DeviceAddress := ⟨⟨[0x0A, 0xB0, 0, 0xFF, 0x7F, 0], rfl⟩⟩

/-- A sign is read, though it is no digit. -/
theorem parse_of_plus :
    parse "+a:b0:00:FF:7f:+0" = .ok mixedAddress ∧
    "+a:b0:00:FF:7f:+0".toUpper ≠ mixedAddress.text ∧
    ¬ Grouped ':' IsPair "+a:b0:00:FF:7f:+0".toList mixedAddress.bytes := by
  have htext : "+a:b0:00:FF:7f:+0".toUpper ≠ mixedAddress.text := by decide +kernel
  exact ⟨by decide +kernel, htext, fun h ↦ htext (grouped_isPair_iff.mp h)⟩

/-- A text without a plus sign is read exactly if it is the text of an address, in either case,
and then as that address.  A plus sign may take the place of a leading zero of a group, and the
address that is read has the text with zeros in their places.  All other texts are refused. -/
theorem parse_eq_ok_iff_unless_plus (s : String) (a : DeviceAddress) :
    (s.toUpper = a.text ↔ Grouped ':' IsPair s.toList a.bytes) ∧
    (s.toUpper = a.text ↔ '+' ∉ s.toList ∧ parse s = .ok a) ∧
    (parse s = .ok a ↔ Grouped ':' ReadsAs s.toList a.bytes) ∧
    ((∃ e, parse s = .error e) ↔
      ¬ ∃ a : DeviceAddress, Grouped ':' ReadsAs s.toList a.bytes) ∧
    parse a.text = .ok a ∧
    (parse s = .ok a → a.text = (s.map unsigned).toUpper) := by
  refine ⟨grouped_isPair_iff.symm, ?_, parse_eq_ok_iff, parse_eq_error_iff, ?_, ?_⟩
  · rw [← grouped_isPair_iff, grouped_isPair_iff_readsAs, parse_eq_ok_iff]
  · exact parse_eq_ok_iff.mpr (grouped_isPair_iff_readsAs.mp a.grouped_text).2
  · intro h
    exact (grouped_isPair_iff.mp (grouped_isPair_map_unsigned (parse_eq_ok_iff.mp h))).symm

theorem parse_eq_ok_iff_unless_plus_mixedAddress :
    parse "+a:b0:00:FF:7f:+0" = .ok mixedAddress ∧
    mixedAddress.text = ("+a:b0:00:FF:7f:+0".map unsigned).toUpper ∧
    parse "0a:b0:00:FF:7f:00" = .ok mixedAddress := by
  have hread : parse "+a:b0:00:FF:7f:+0" = .ok mixedAddress := by decide +kernel
  obtain ⟨-, -, -, -, -, htext⟩ := parse_eq_ok_iff_unless_plus "+a:b0:00:FF:7f:+0" mixedAddress
  obtain ⟨-, hplain, -⟩ := parse_eq_ok_iff_unless_plus "0a:b0:00:FF:7f:00" mixedAddress
  exact ⟨hread, htext hread, (hplain.mp (by decide +kernel)).2⟩

end BleBeacon.DeviceAddress
