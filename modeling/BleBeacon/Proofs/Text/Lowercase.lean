import Mathlib
import BleBeacon.Proofs.Text.Hex
import BleBeacon.Text.LetterCase

/-!
# Lower case and ASCII

The capitals of ASCII are mapped themselves, and no character beyond ASCII is mapped to one of them
or to a hexadecimal digit.  So no capital is left in a text in lower case, and a text whose lower
case has only digits had only digits.
-/

namespace BleBeacon

open LetterCase

theorem isUpper_iff_toNat (c : Char) : c.isUpper ↔ 65 ≤ c.toNat ∧ c.toNat ≤ 90 := by
  rw [Char.isUpper, decide_eq_true_eq]
  exact and_congr UInt32.le_iff_toNat_le UInt32.le_iff_toNat_le

-- A number that is no character stands for the character zero, which is no capital either.
theorem not_isUpper_ofNat {n : Nat} (h : 90 < n) : ¬ (Char.ofNat n).isUpper := by
  rw [isUpper_iff_toNat, Char.toNat_ofNat]
  split_ifs <;> omega

-- Nor is it a digit.
theorem not_isDigit_ofNat {n : Nat} (h : 102 < n) : ¬ Hex.IsDigit (Char.ofNat n) := by
  intro hdigit
  have hlow : 48 ≤ (Char.ofNat n).toNat := by
    rcases hdigit with h | h | h <;> exact le_trans (by decide) (Char.le_def.mp h.1)
  have hhigh : (Char.ofNat n).toNat ≤ 102 := by
    rcases hdigit with h | h | h <;> exact le_trans (Char.le_def.mp h.2) (by decide)
  rw [Char.toNat_ofNat] at hlow hhigh
  split_ifs at hlow hhigh <;> omega

/-- Beyond ASCII nothing is mapped to a capital of ASCII or to a digit. -/
theorem simpleLower_eq (c : Char) :
    simpleLower c = c.toLower ∨ ∃ n, 102 < n ∧ simpleLower c = Char.ofNat n := by
  rw [simpleLower]
  cases hfind : lowerRuns.find? (·.covers c.toNat) with
  | some run =>
    have hcovers := List.find?_some hfind
    simp only [CaseRun.covers, Bool.and_eq_true, decide_eq_true_eq] at hcovers
    -- The capitals of ASCII are the first run.
    rcases List.mem_cons.mp (List.mem_of_find?_eq_some hfind) with rfl | hrun
    · have hupper : c.isUpper := (isUpper_iff_toNat c).mpr hcovers.1
      left
      rw [Char.toLower_eq_of_isUpper hupper]
      rfl
    · right
      have hall : ∀ run ∈ lowerRuns.tail, 102 < (run.first : Int) + run.shift := by
        decide +kernel
      have hbeyond := hall run hrun
      exact ⟨_, by omega, rfl⟩
  | none =>
    left
    refine (Char.toLower_eq_of_not_isUpper fun hupper ↦ ?_).symm
    have hfirst := List.find?_eq_none.mp hfind ⟨0x41, 0x5A, 1, 32⟩ List.mem_cons_self
    obtain ⟨hlow, hhigh⟩ := (isUpper_iff_toNat c).mp hupper
    refine hfirst ?_
    simp only [CaseRun.covers, Nat.mod_one, Bool.and_eq_true, decide_eq_true_eq]
    exact ⟨⟨hlow, hhigh⟩, rfl⟩

theorem not_isUpper_simpleLower (c : Char) : ¬ (simpleLower c).isUpper := by
  rcases simpleLower_eq c with h | ⟨n, hn, h⟩
  · rw [h, Char.isUpper_toLower_eq_false]
    exact Bool.false_ne_true
  · rw [h]
    exact not_isUpper_ofNat (by omega)

theorem not_isUpper_of_mem_lowerChar {before after : List Char} {c d : Char}
    (h : d ∈ lowerChar before c after) : ¬ d.isUpper := by
  rw [lowerChar] at h
  split_ifs at h
  · rw [List.mem_singleton.mp h]
    decide
  · rw [List.mem_singleton.mp h]
    decide
  · rcases List.mem_pair.mp h with rfl | rfl <;> decide
  · rw [List.mem_singleton.mp h]
    exact not_isUpper_simpleLower c

theorem not_isUpper_of_mem_lowerFrom {before cs : List Char} {d : Char}
    (h : d ∈ lowerFrom before cs) : ¬ d.isUpper := by
  induction cs generalizing before with
  | nil => exact absurd h List.not_mem_nil
  | cons c after ih =>
    rw [lowerFrom, List.mem_append] at h
    rcases h with hchar | hrest
    · exact not_isUpper_of_mem_lowerChar hchar
    · exact ih hrest

theorem not_isUpper_of_mem_lowercase (s : String) : ∀ d ∈ (lowercase s).toList, ¬ d.isUpper := by
  intro d h
  rw [lowercase, String.toList_ofList] at h
  exact not_isUpper_of_mem_lowerFrom h

/-! ## Texts of digits -/

theorem lowerChar_eq_of_isDigit {before after : List Char} {c : Char}
    (h : ∀ d ∈ lowerChar before c after, Hex.IsDigit d) :
    lowerChar before c after = [c.toLower] := by
  rw [lowerChar] at h ⊢
  split_ifs at h ⊢
  · exact absurd (h _ List.mem_cons_self) (by decide)
  · exact absurd (h _ List.mem_cons_self) (by decide)
  · exact absurd (h _ List.mem_cons_self) (by decide)
  · rcases simpleLower_eq c with hlower | ⟨n, hn, hbeyond⟩
    · rw [hlower]
    · rw [hbeyond] at h
      exact absurd (h _ List.mem_cons_self) (not_isDigit_ofNat hn)

theorem lowerFrom_eq_of_isDigit {before cs : List Char}
    (h : ∀ d ∈ lowerFrom before cs, Hex.IsDigit d) : lowerFrom before cs = cs.map Char.toLower := by
  induction cs generalizing before with
  | nil => rfl
  | cons c after ih =>
    rw [lowerFrom, List.forall_mem_append] at h
    rw [lowerFrom, lowerChar_eq_of_isDigit h.1, ih h.2, List.map_cons, List.singleton_append]

/-- No other text than one of digits has digits as its lower case, so only ASCII matters there. -/
theorem lowercase_eq_toLower {s : String} {n : Nat} (h : Hex.AllDigits n (lowercase s)) :
    lowercase s = s.toLower := by
  obtain ⟨-, hdigits⟩ := h
  rw [lowercase, String.toList_ofList] at hdigits
  rw [lowercase, lowerFrom_eq_of_isDigit hdigits, ← String.toList_inj, String.toList_ofList,
    String.toLower, String.toList_map]

end BleBeacon
