import Mathlib
import BleBeacon.Interval
import BleBeacon.Proofs.Text.Numeral

/-!
# Texts for spans of time

A text is a number, a suffix that tells its unit, and blanks.  What stands before the suffix ends
with a digit or a blank, so no shorter or longer suffix is taken for it.  The span is never cut to
what its type holds; a longer one is refused.
-/

namespace BleBeacon.Interval

/-- The suffixes, and the milliseconds of their units. -/
inductive Suffix : List Char → Nat → Prop where
  | milliseconds : Suffix ['m', 's'] 1
  | hours : Suffix ['h'] 3600000
  | minutes : Suffix ['m'] 60000
  | seconds : Suffix ['s'] 1000
  | none : Suffix [] 1000

/-- How a number of units is written: blanks only around the number and its suffix. -/
inductive Spells : List Char → Nat → Nat → Prop where
  | intro {front number gap ending back : List Char} {n factor : Nat} (hfront : Blank front)
      (hnumber : Numeral.Spells number n) (hgap : Blank gap) (hending : Suffix ending factor)
      (hback : Blank back) : Spells (front ++ (number ++ gap ++ ending) ++ back) n factor

/-! ## Finding the suffix -/

theorem before?_eq_some_iff {ending cs number : List Char} :
    before? ending cs = some number ↔ cs = number ++ ending := by
  rw [before?]
  constructor
  · intro h
    split_ifs at h with hends
    cases h
    exact (List.suffix_iff_eq_append.mp (List.isSuffixOf_iff_suffix.mp hends)).symm
  · rintro rfl
    rw [if_pos (List.isSuffixOf_iff_suffix.mpr (List.suffix_append ..)), List.length_append,
      Nat.add_sub_cancel, List.take_left]

theorem firstUnit?_append (number : List Char) (unit : TimeUnit) (more : List TimeUnit) :
    firstUnit? (number ++ unit.ending) (unit :: more) = some (unit, number) := by
  rw [firstUnit?, before?_eq_some_iff.mpr rfl]

theorem firstUnit?_of_not_suffix {cs : List Char} {skipped : List TimeUnit}
    (h : ∀ unit ∈ skipped, ¬ unit.ending <:+ cs) (more : List TimeUnit) :
    firstUnit? cs (skipped ++ more) = firstUnit? cs more := by
  induction skipped with
  | nil => rfl
  | cons unit skipped ih =>
    obtain ⟨hunit, hskipped⟩ := List.forall_mem_cons.mp h
    rw [List.cons_append, firstUnit?, before?, if_neg, ih hskipped]
    rwa [List.isSuffixOf_iff_suffix]

theorem exists_of_firstUnit?_eq_some {cs number : List Char} {unit : TimeUnit}
    {units : List TimeUnit} (h : firstUnit? cs units = some (unit, number)) :
    cs = number ++ unit.ending := by
  induction units with
  | nil => cases h
  | cons first more ih =>
    rw [firstUnit?] at h
    split at h
    · rename_i hbefore
      cases h
      exact before?_eq_some_iff.mp hbefore
    · exact ih h

theorem TimeUnit.suffix (unit : TimeUnit) : Suffix unit.ending unit.length := by
  cases unit <;> constructor

/-- A text without a suffix of its own counts seconds. -/
theorem exists_suffix_splitUnit (cs : List Char) :
    ∃ ending, Suffix ending (splitUnit cs).1.length ∧ cs = (splitUnit cs).2 ++ ending := by
  unfold splitUnit
  cases hfirst : firstUnit? cs TimeUnit.all with
  | none => exact ⟨[], .none, (List.append_nil cs).symm⟩
  | some found => exact ⟨found.1.ending, found.1.suffix, exists_of_firstUnit?_eq_some hfirst⟩

-- What may stand before a suffix is none of the characters that suffixes have.
theorem ne_of_not_letter {last : Char} (h : isBlank last ∨ last.isDigit) :
    ∀ c ∈ ['m', 's', 'h'], c ≠ last := by
  rintro c hc rfl
  simp only [List.mem_cons, List.not_mem_nil, or_false] at hc
  rcases hc with rfl | rfl | rfl <;> exact absurd h (by decide)

-- Behind a character that no suffix has, each suffix is only found where it stands.
theorem splitUnit_concat {front ending : List Char} {last : Char} {factor : Nat}
    (hlast : ∀ c ∈ ['m', 's', 'h'], c ≠ last) (hending : Suffix ending factor) :
    ∃ unit : TimeUnit, splitUnit (front ++ [last] ++ ending) = (unit, front ++ [last]) ∧
      unit.length = factor := by
  have hskip : ∀ skipped more : List TimeUnit, (∀ unit ∈ skipped, unit.ending ≠ ending) →
      ending ≠ ['m', 's'] → firstUnit? (front ++ [last] ++ ending) (skipped ++ more) =
        firstUnit? (front ++ [last] ++ ending) more := by
    intro skipped more hne hms
    refine firstUnit?_of_not_suffix (fun unit hunit ↦ ?_) more
    replace hne := hne unit hunit
    rw [← List.reverse_prefix]
    cases unit <;> cases hending <;> simp_all [TimeUnit.ending]
  have hfound : ∀ unit, firstUnit? (front ++ [last] ++ ending) TimeUnit.all =
      some (unit, front ++ [last]) →
        splitUnit (front ++ [last] ++ ending) = (unit, front ++ [last]) := by
    intro unit h
    rw [splitUnit, h]
    rfl
  cases hending with
  | milliseconds => exact ⟨.milliseconds, hfound _ (firstUnit?_append _ .milliseconds _), rfl⟩
  | hours =>
    have hfirst := hskip [.milliseconds] [.hours, .minutes, .seconds] (by decide) (by decide)
    exact ⟨.hours, hfound _ (hfirst.trans (firstUnit?_append _ .hours _)), rfl⟩
  | minutes =>
    have hfirst := hskip [.milliseconds, .hours] [.minutes, .seconds] (by decide) (by decide)
    exact ⟨.minutes, hfound _ (hfirst.trans (firstUnit?_append _ .minutes _)), rfl⟩
  | seconds =>
    have hfirst := hskip [.milliseconds, .hours, .minutes] [.seconds] (by decide) (by decide)
    exact ⟨.seconds, hfound _ (hfirst.trans (firstUnit?_append _ .seconds _)), rfl⟩
  | none =>
    have hfirst := hskip TimeUnit.all [] (by decide) (by decide)
    rw [splitUnit, show firstUnit? _ TimeUnit.all = none from hfirst, List.append_nil]
    exact ⟨.seconds, rfl, rfl⟩

variable {cs number gap ending : List Char} {n factor : Nat}

theorem splitUnit_append (hnumber : Numeral.Spells number n) (hgap : Blank gap)
    (hending : Suffix ending factor) :
    ∃ unit : TimeUnit, splitUnit (number ++ gap ++ ending) = (unit, number ++ gap) ∧
      unit.length = factor := by
  rcases List.eq_nil_or_concat gap with rfl | ⟨front, last, rfl⟩
  · obtain ⟨front, last, rfl, hlast⟩ := hnumber.exists_concat
    rw [List.append_nil]
    exact splitUnit_concat (ne_of_not_letter (.inr hlast)) hending
  · have hlast : isBlank last := hgap last (by simp)
    rw [List.concat_eq_append, ← List.append_assoc]
    exact splitUnit_concat (ne_of_not_letter (.inl hlast)) hending

/-! ## Reading a text -/

theorem trim_number_append (hnumber : Numeral.Spells number n) (hgap : Blank gap) :
    trim (number ++ gap) = number :=
  trim_append (List.forall_mem_nil _) hgap hnumber.head hnumber.getLast

theorem Suffix.getLast (h : Suffix ending factor) (hne : ending ≠ []) :
    ∀ c ∈ ending.getLast?, isBlank c = false := by
  cases h with
  | milliseconds | hours | minutes | seconds =>
    rintro c ⟨⟩
    decide
  | none => exact absurd rfl hne

/-- Between the blanks around it a text is a number, a gap and a suffix. -/
theorem Spells.exists_trim_eq (h : Spells cs n factor) :
    ∃ number gap ending, Numeral.Spells number n ∧ Blank gap ∧ Suffix ending factor ∧
      trim cs = number ++ gap ++ ending := by
  cases h with
  | @intro front number gap ending back n factor hfront hnumber hgap hending hback =>
    by_cases hne : ending = []
    · subst hne
      refine ⟨number, [], [], hnumber, List.forall_mem_nil _, hending, ?_⟩
      have htrim := trim_append hfront (hgap.append hback) hnumber.head hnumber.getLast
      simpa only [List.append_nil, List.append_assoc] using htrim
    · refine ⟨number, gap, ending, hnumber, hgap, hending, trim_append hfront hback ?_ ?_⟩
      · rw [List.append_assoc, List.head?_append_of_ne_nil _ hnumber.ne_nil]
        exact hnumber.head
      · rw [List.getLast?_append_of_ne_nil _ hne]
        exact hending.getLast hne

theorem splitUnit_of_spells (h : Spells cs n factor) :
    Numeral.Spells (trim (splitUnit (trim cs)).2) n ∧ (splitUnit (trim cs)).1.length = factor := by
  obtain ⟨number, gap, ending, hnumber, hgap, hending, htrim⟩ := h.exists_trim_eq
  obtain ⟨unit, hsplit, hfactor⟩ := splitUnit_append hnumber hgap hending
  rw [htrim, hsplit, trim_number_append hnumber hgap]
  exact ⟨hnumber, hfactor⟩

theorem spells_of_splitUnit (h : Numeral.Spells (trim (splitUnit (trim cs)).2) n) :
    Spells cs n (splitUnit (trim cs)).1.length := by
  obtain ⟨front, back, hfront, hback, hcs⟩ := exists_append_trim cs
  obtain ⟨inner, gap, hinner, hgap, hnumber⟩ := exists_append_trim (splitUnit (trim cs)).2
  obtain ⟨ending, hending, hends⟩ := exists_suffix_splitUnit (trim cs)
  have hspells := Spells.intro (hfront.append hinner) h hgap hending hback
  have heq : cs = front ++ inner ++ (trim (splitUnit (trim cs)).2 ++ gap ++ ending) ++ back := by
    calc cs = front ++ trim cs ++ back := hcs
      _ = front ++ ((splitUnit (trim cs)).2 ++ ending) ++ back := by rw [← hends]
      _ = front ++ (inner ++ trim (splitUnit (trim cs)).2 ++ gap ++ ending) ++ back := by
        rw [← hnumber]
      _ = _ := by simp only [List.append_assoc]
  rwa [← heq] at hspells

theorem Spells.trim_ne_nil (h : Spells cs n factor) : trim cs ≠ [] := by
  obtain ⟨number, gap, ending, hnumber, -, -, htrim⟩ := h.exists_trim_eq
  rw [htrim]
  simp [hnumber.ne_nil]

variable {text : String}

/-- Of a number of units that its type holds, only the span can be too long. -/
theorem parse_of_spells (h : Spells text.toList n factor) (hn : n < 2 ^ 64) :
    parse text = if n * factor < 2 ^ 64 then .ok (n * factor)
      else .error (.tooLong (String.ofList (trim text.toList))) := by
  obtain ⟨hnumber, rfl⟩ := splitUnit_of_spells h
  have hread := Numeral.unsigned?_eq_some_iff.mpr ⟨hnumber, hn⟩
  rw [parse]
  dsimp only
  rw [if_neg h.trim_ne_nil, show limit = 2 ^ 64 from rfl, hread]

/-- A text that is read, or whose span is too long, spells a number of units. -/
theorem exists_spells_of_parse (hempty : parse text ≠ .error .empty)
    (hbad : ∀ unit number, parse text ≠ .error (.badNumber unit number)) :
    ∃ n factor, Spells text.toList n factor ∧ n < 2 ^ 64 := by
  rw [parse] at hempty hbad
  dsimp only at hempty hbad
  by_cases hnil : trim text.toList = []
  · rw [if_pos hnil] at hempty
    exact absurd rfl hempty
  · rw [if_neg hnil] at hbad
    cases hread : Numeral.unsigned? limit (trim (splitUnit (trim text.toList)).2) with
    | none =>
      rw [hread] at hbad
      exact absurd rfl (hbad _ _)
    | some n =>
      obtain ⟨hnumber, hn⟩ := Numeral.unsigned?_eq_some_iff.mp hread
      exact ⟨n, _, spells_of_splitUnit hnumber, hn⟩

theorem parse_eq_ok_iff_spells {m : Nat} : parse text = .ok m ↔
    ∃ n factor, Spells text.toList n factor ∧ n < 2 ^ 64 ∧ m = n * factor ∧ m < 2 ^ 64 := by
  constructor
  · intro h
    have hspelled : ∃ n factor, Spells text.toList n factor ∧ n < 2 ^ 64 :=
      exists_spells_of_parse (by simp [h]) (by simp [h])
    obtain ⟨n, factor, hspells, hn⟩ := hspelled
    rw [parse_of_spells hspells hn] at h
    split_ifs at h with hfits
    cases h
    exact ⟨n, factor, hspells, hn, rfl, hfits⟩
  · rintro ⟨n, factor, hspells, hn, rfl, hfits⟩
    rw [parse_of_spells hspells hn, if_pos hfits]

theorem parse_eq_tooLong_iff : (∃ shown, parse text = .error (.tooLong shown)) ↔
    ∃ n factor, Spells text.toList n factor ∧ n < 2 ^ 64 ∧ 2 ^ 64 ≤ n * factor := by
  constructor
  · rintro ⟨shown, h⟩
    have hspelled : ∃ n factor, Spells text.toList n factor ∧ n < 2 ^ 64 :=
      exists_spells_of_parse (by simp [h]) (by simp [h])
    obtain ⟨n, factor, hspells, hn⟩ := hspelled
    rw [parse_of_spells hspells hn] at h
    split_ifs at h with hfits
    exact ⟨n, factor, hspells, hn, Nat.not_lt.mp hfits⟩
  · rintro ⟨n, factor, hspells, hn, hlong⟩
    rw [parse_of_spells hspells hn, if_neg (Nat.not_lt.mpr hlong)]
    exact ⟨_, rfl⟩

/-- A text is read as a span of time exactly if it is a number below `2 ^ 64` with a suffix or
none, and the span has fewer milliseconds than that.  All else is refused, and as too long exactly
what only the length of its span stands against. -/
theorem parse_outcome (text : String) :
    (∀ m, parse text = .ok m ↔
      ∃ n factor, Spells text.toList n factor ∧ n < 2 ^ 64 ∧ m = n * factor ∧ m < 2 ^ 64) ∧
    ((∃ e, parse text = .error e) ↔
      ¬ ∃ n factor, Spells text.toList n factor ∧ n < 2 ^ 64 ∧ n * factor < 2 ^ 64) ∧
    ((∃ shown, parse text = .error (.tooLong shown)) ↔
      ∃ n factor, Spells text.toList n factor ∧ n < 2 ^ 64 ∧ 2 ^ 64 ≤ n * factor) := by
  refine ⟨fun m ↦ parse_eq_ok_iff_spells, ⟨?_, ?_⟩, parse_eq_tooLong_iff⟩
  · rintro ⟨e, he⟩ ⟨n, factor, hspells, hn, hfits⟩
    rw [parse_eq_ok_iff_spells.mpr ⟨n, factor, hspells, hn, rfl, hfits⟩] at he
    cases he
  · intro hnot
    cases hparse : parse text with
    | error e => exact ⟨e, rfl⟩
    | ok m =>
      obtain ⟨n, factor, hspells, hn, rfl, hfits⟩ := parse_eq_ok_iff_spells.mp hparse
      exact absurd ⟨n, factor, hspells, hn, hfits⟩ hnot

-- The last span of whole seconds that there is, and the next one.
example : parse "+18446744073709551 s" = .ok 18446744073709551000 ∧
    parse "18446744073709552s" = .error (.tooLong "18446744073709552s") := by decide +kernel

end BleBeacon.Interval
