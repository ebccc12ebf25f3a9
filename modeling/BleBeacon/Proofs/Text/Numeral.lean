import Mathlib
import BleBeacon.Text.Basic
import BleBeacon.Proofs.Text.Blanks

/-!
# Numerals without a sign

Exactly the texts of one or more ASCII digits are read as numbers, perhaps with a plus sign in front
of them.
-/

namespace BleBeacon.Numeral

/-- The spellings of a number: its digits, with any zeros before them, and perhaps a plus sign. -/
inductive Spells : List Char → Nat → Prop where
  | plain {digits : List Char} (hdigits : ∀ c ∈ digits, c.isDigit) (hne : digits ≠ []) :
      Spells digits (Nat.ofDigitChars 10 digits 0)
  | plus {digits : List Char} (hdigits : ∀ c ∈ digits, c.isDigit) (hne : digits ≠ []) :
      Spells ('+' :: digits) (Nat.ofDigitChars 10 digits 0)

theorem digitValue?_eq (c : Char) :
    digitValue? c = if c.isDigit then some (c.toNat - '0'.toNat) else none := by
  simp only [digitValue?, Char.isDigit, Bool.and_eq_true, decide_eq_true_eq]
  rfl

theorem toNat_of_isDigit {c : Char} (h : c.isDigit) : 48 ≤ c.toNat ∧ c.toNat ≤ 57 := by
  rw [Char.isDigit, Bool.and_eq_true, decide_eq_true_eq, decide_eq_true_eq] at h
  exact ⟨UInt32.le_iff_toNat_le.mp h.1, UInt32.le_iff_toNat_le.mp h.2⟩

theorem isBlank_of_isDigit {c : Char} (h : c.isDigit) : isBlank c = false := by
  have hrange := toNat_of_isDigit h
  simp only [isBlank, Bool.or_eq_false_iff, Bool.and_eq_false_iff, decide_eq_false_iff_not,
    beq_eq_false_iff_ne]
  omega

-- The digits that were read before only move the value at which reading goes on.
theorem digitsFrom?_eq_some_iff {value n : Nat} {cs : List Char} :
    digitsFrom? value cs = some n ↔
      (∀ c ∈ cs, c.isDigit) ∧ n = Nat.ofDigitChars 10 cs value := by
  induction cs generalizing value with
  | nil =>
    rw [digitsFrom?, Option.some_inj, Nat.ofDigitChars_nil]
    exact ⟨fun h ↦ ⟨by simp, h.symm⟩, fun h ↦ h.2.symm⟩
  | cons c rest ih =>
    rw [digitsFrom?, digitValue?_eq, List.forall_mem_cons, Nat.ofDigitChars_cons]
    by_cases hc : c.isDigit
    · rw [if_pos hc, Option.bind_eq_bind, Option.bind_some, ih]
      simp only [hc, true_and]
    · rw [if_neg hc]
      simp [hc]

theorem digits?_eq_some_iff {n : Nat} {cs : List Char} :
    digits? cs = some n ↔
      (∀ c ∈ cs, c.isDigit) ∧ cs ≠ [] ∧ n = Nat.ofDigitChars 10 cs 0 := by
  rw [digits?]
  split_ifs with hempty
  · simp [hempty]
  · rw [digitsFrom?_eq_some_iff]
    simp only [ne_eq, hempty, not_false_eq_true, true_and]

-- A sign is no digit, so it is only where one may stand.
theorem spells_iff {n : Nat} {cs : List Char} :
    Spells cs n ↔ digits? (match cs with | '+' :: rest => rest | _ => cs) = some n := by
  constructor
  · intro h
    cases h with
    | plus hdigits hne => exact digits?_eq_some_iff.mpr ⟨hdigits, hne, rfl⟩
    | plain hdigits hne =>
      split
      · exact absurd (hdigits '+' List.mem_cons_self) (by decide)
      · exact digits?_eq_some_iff.mpr ⟨hdigits, hne, rfl⟩
  · intro h
    split at h
    · obtain ⟨hdigits, hne, rfl⟩ := digits?_eq_some_iff.mp h
      exact .plus hdigits hne
    · obtain ⟨hdigits, hne, rfl⟩ := digits?_eq_some_iff.mp h
      exact .plain hdigits hne

/-- A number is read if it is spelled and stays below the bound. -/
theorem unsigned?_eq_some_iff {bound n : Nat} {cs : List Char} :
    unsigned? bound cs = some n ↔ Spells cs n ∧ n < bound := by
  unfold unsigned?
  rw [Option.bind_eq_bind, Option.bind_eq_some_iff]
  constructor
  · rintro ⟨k, hdigits, hbound⟩
    split_ifs at hbound with hlt
    cases hbound
    exact ⟨spells_iff.mpr hdigits, hlt⟩
  · rintro ⟨hspells, hlt⟩
    exact ⟨n, spells_iff.mp hspells, if_pos hlt⟩

/-- A numeral starts with a sign or a digit. -/
theorem Spells.head {cs : List Char} {n : Nat} (h : Spells cs n) :
    ∀ c ∈ cs.head?, isBlank c = false := by
  intro c hc
  cases h with
  | plain hdigits hne => exact isBlank_of_isDigit (hdigits c (List.mem_of_head? hc))
  | plus hdigits hne =>
    cases hc
    rfl

theorem Spells.ne_nil {cs : List Char} {n : Nat} (h : Spells cs n) : cs ≠ [] := by
  cases h with
  | plain hdigits hne => exact hne
  | plus hdigits hne => exact List.cons_ne_nil _ _

theorem Spells.exists_concat {cs : List Char} {n : Nat} (h : Spells cs n) :
    ∃ front last, cs = front ++ [last] ∧ last.isDigit := by
  cases h with
  | plain hdigits hne =>
    exact ⟨_, _, (List.dropLast_append_getLast hne).symm, hdigits _ (List.getLast_mem hne)⟩
  | @plus digits hdigits hne =>
    refine ⟨'+' :: digits.dropLast, digits.getLast hne, ?_, hdigits _ (List.getLast_mem hne)⟩
    rw [List.cons_append, List.dropLast_append_getLast]

theorem Spells.getLast {cs : List Char} {n : Nat} (h : Spells cs n) :
    ∀ c ∈ cs.getLast?, isBlank c = false := by
  obtain ⟨front, last, rfl, hlast⟩ := h.exists_concat
  rw [List.getLast?_concat]
  rintro c ⟨⟩
  exact isBlank_of_isDigit hlast

end BleBeacon.Numeral
