import Mathlib
import BleBeacon.Text.Basic

/-!
# Blanks around a text

Trimming takes blanks away and nothing else, and takes all of them.
-/

namespace BleBeacon

/-- Texts of blanks alone. -/
def Blank (cs : List Char) : Prop := ∀ c ∈ cs, isBlank c

theorem Blank.append {xs ys : List Char} (hxs : Blank xs) (hys : Blank ys) : Blank (xs ++ ys) :=
  List.forall_mem_append.mpr ⟨hxs, hys⟩

theorem trimLeft_append {front : List Char} (h : Blank front) (cs : List Char) :
    trimLeft (front ++ cs) = trimLeft cs :=
  List.dropWhile_append_of_pos h

theorem trimLeft_append_of_not_blank {xs : List Char} (h : ¬ Blank xs) (ys : List Char) :
    trimLeft (xs ++ ys) = trimLeft xs ++ ys := by
  rw [trimLeft, List.dropWhile_append, if_neg]
  · rfl
  · rwa [List.isEmpty_iff, List.dropWhile_eq_nil_iff]

theorem trimLeft_isPrefix {xs ys : List Char} (h : xs <+: ys) : trimLeft xs <+: trimLeft ys := by
  obtain ⟨more, rfl⟩ := h
  by_cases hxs : Blank xs
  · rw [show trimLeft xs = [] from List.dropWhile_eq_nil_iff.mpr hxs]
    exact List.nil_prefix
  · rw [trimLeft_append_of_not_blank hxs]
    exact List.prefix_append _ _

theorem trimRight_append {back : List Char} (h : Blank back) (cs : List Char) :
    trimRight (cs ++ back) = trimRight cs := by
  have hback : ∀ c ∈ back.reverse, isBlank c := fun c hc ↦ h c (List.mem_reverse.mp hc)
  rw [trimRight, List.reverse_append, List.dropWhile_append_of_pos hback, trimRight]

theorem exists_append_trimLeft (cs : List Char) :
    ∃ front, Blank front ∧ cs = front ++ trimLeft cs :=
  ⟨cs.takeWhile isBlank, fun _ hc ↦ List.mem_takeWhile_imp hc,
    List.takeWhile_append_dropWhile.symm⟩

theorem exists_trimRight_append (cs : List Char) :
    ∃ back, Blank back ∧ cs = trimRight cs ++ back := by
  obtain ⟨front, hfront, hreverse⟩ := exists_append_trimLeft cs.reverse
  refine ⟨front.reverse, fun c hc ↦ hfront c (List.mem_reverse.mp hc), ?_⟩
  rw [trimRight, ← trimLeft, ← List.reverse_append, ← hreverse, List.reverse_reverse]

theorem exists_append_trim (cs : List Char) :
    ∃ front back, Blank front ∧ Blank back ∧ cs = front ++ trim cs ++ back := by
  obtain ⟨front, hfront, hleft⟩ := exists_append_trimLeft cs
  obtain ⟨back, hback, hright⟩ := exists_trimRight_append (trimLeft cs)
  refine ⟨front, back, hfront, hback, ?_⟩
  rw [trim, List.append_assoc, ← hright]
  exact hleft

theorem trimLeft_of_head? {cs : List Char} (h : ∀ c ∈ cs.head?, isBlank c = false) :
    trimLeft cs = cs := by
  cases cs with
  | nil => rfl
  | cons c cs => exact List.dropWhile_cons_of_neg (Bool.eq_false_iff.mp (h c rfl))

theorem trimRight_of_getLast? {cs : List Char} (h : ∀ c ∈ cs.getLast?, isBlank c = false) :
    trimRight cs = cs := by
  rw [trimRight, ← trimLeft, trimLeft_of_head?, List.reverse_reverse]
  rwa [List.head?_reverse]

/-- A text that neither starts nor ends with a blank is what is left of it between blanks. -/
theorem trim_append {front core back : List Char} (hfront : Blank front) (hback : Blank back)
    (hhead : ∀ c ∈ core.head?, isBlank c = false)
    (hlast : ∀ c ∈ core.getLast?, isBlank c = false) : trim (front ++ core ++ back) = core := by
  cases core with
  | nil =>
    have hblank := hfront.append hback
    rw [List.append_nil, ← List.append_nil (front ++ back), trim, trimLeft_append hblank]
    rfl
  | cons c core =>
    have hleft : trimLeft (c :: core ++ back) = c :: core ++ back := trimLeft_of_head? hhead
    rw [List.append_assoc, trim, trimLeft_append hfront, hleft, trimRight_append hback,
      trimRight_of_getLast? hlast]

end BleBeacon
