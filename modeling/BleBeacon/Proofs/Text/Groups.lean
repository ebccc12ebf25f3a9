import Mathlib

/-!
# Texts in groups

A text in groups has single separators between them.  What holds of all its characters holds of the
separator and of all groups, and changing its characters, the separator apart, changes each group by
itself.
-/

namespace BleBeacon

section Lists

variable {α β : Type}

theorem forall_mem_intercalate {p : α → Prop} {separator : α} (hseparator : p separator)
    (groups : List (List α)) :
    (∀ c ∈ [separator].intercalate groups, p c) ↔ ∀ group ∈ groups, ∀ c ∈ group, p c := by
  induction groups with
  | nil => exact ⟨fun _ ↦ List.forall_mem_nil _, fun _ ↦ List.forall_mem_nil _⟩
  | cons group rest ih =>
    cases rest with
    | nil => rw [List.intercalate_singleton, List.forall_mem_singleton]
    | cons next rest =>
      rw [List.intercalate_cons_cons, List.forall_mem_append, List.forall_mem_append,
        List.forall_mem_singleton, ih, List.forall_mem_cons (l := next :: rest)]
      exact ⟨fun h ↦ ⟨h.1.1, h.2⟩, fun h ↦ ⟨⟨h.1, hseparator⟩, h.2⟩⟩

theorem splitOn_map [BEq α] [LawfulBEq α] [BEq β] [LawfulBEq β] {f : α → β} {separator : α}
    {separator' : β} (hf : ∀ c, f c = separator' ↔ c = separator) (cs : List α) :
    (cs.map f).splitOn separator' = (cs.splitOn separator).map (List.map f) := by
  induction cs with
  | nil => rfl
  | cons c cs ih =>
    rw [List.map_cons, List.splitOn_cons_eq_if_modifyHead, List.splitOn_cons_eq_if_modifyHead, ih]
    by_cases hc : c = separator
    · have hfc : f c = separator' := (hf c).mpr hc
      rw [if_pos (beq_iff_eq.mpr hc), if_pos (beq_iff_eq.mpr hfc)]
      rfl
    · have hfc : ¬ f c = separator' := fun h ↦ hc ((hf c).mp h)
      rw [if_neg (fun h ↦ hc (beq_iff_eq.mp h)), if_neg (fun h ↦ hfc (beq_iff_eq.mp h))]
      cases cs.splitOn separator with
      | nil => rfl
      | cons group rest => rfl

end Lists

/-- Texts whose groups stand for these values, one after another. -/
def Grouped {β : Type} (separator : Char) (R : List Char → β → Prop) (cs : List Char)
    (values : List β) : Prop :=
  ∃ groups, cs = [separator].intercalate groups ∧ List.Forall₂ R groups values

namespace Grouped

variable {β : Type} {separator : Char} {R : List Char → β → Prop}

/-- Groups without separators in them are what the text is split into. -/
theorem iff_splitOn (hseparator : ∀ group value, R group value → separator ∉ group)
    {values : List β} (hne : values ≠ []) (cs : List Char) :
    Grouped separator R cs values ↔ List.Forall₂ R (cs.splitOn separator) values := by
  constructor
  · rintro ⟨groups, rfl, hgroups⟩
    have hfree : List.Forall₂ (fun group value ↦ separator ∉ group ∧ R group value)
        groups values := hgroups.imp fun group value h ↦ ⟨hseparator group value h, h⟩
    have hsome : groups ≠ [] := by
      intro hnil
      rw [hnil] at hgroups
      exact hne (List.forall₂_nil_left_iff.mp hgroups)
    rw [List.splitOn_intercalate separator ((List.forall₂_and_left _ _).mp hfree).1 hsome]
    exact hgroups
  · intro hgroups
    exact ⟨cs.splitOn separator, (List.intercalate_splitOn separator).symm, hgroups⟩

theorem congr {R' : List Char → β → Prop} (h : ∀ group value, R group value ↔ R' group value)
    (cs : List Char) (values : List β) :
    Grouped separator R cs values ↔ Grouped separator R' cs values := by
  rw [show R = R' from funext₂ fun group value ↦ propext (h group value)]

/-- What each group has, the separator also having it, the whole text has. -/
theorem and_iff {p : Char → Prop} (hseparator : p separator) (cs : List Char) (values : List β) :
    Grouped separator (fun group value ↦ (∀ c ∈ group, p c) ∧ R group value) cs values ↔
      (∀ c ∈ cs, p c) ∧ Grouped separator R cs values := by
  unfold Grouped
  constructor
  · rintro ⟨groups, rfl, hgroups⟩
    obtain ⟨hall, hR⟩ := (List.forall₂_and_left _ _).mp hgroups
    exact ⟨(forall_mem_intercalate hseparator groups).mpr hall, groups, rfl, hR⟩
  · rintro ⟨hall, groups, rfl, hR⟩
    have hall' := (forall_mem_intercalate hseparator groups).mp hall
    exact ⟨groups, rfl, (List.forall₂_and_left _ _).mpr ⟨hall', hR⟩⟩

theorem eq_iff (f : β → List Char) (values : List β) (cs : List Char) :
    Grouped separator (fun group value ↦ group = f value) cs values ↔
      cs = [separator].intercalate (values.map f) := by
  have hgroups : ∀ groups, List.Forall₂ (fun group value ↦ group = f value) groups values ↔
      groups = values.map f := by
    intro groups
    rw [← List.forall₂_map_right_iff (R := (· = ·)), List.forall₂_eq_eq_eq]
  unfold Grouped
  simp only [hgroups, exists_eq_right]

/-- Characters other than the separator may be changed before or after a text is taken apart. -/
theorem map_iff (hseparator : ∀ group value, R group value → separator ∉ group) {f : Char → Char}
    (hf : ∀ c, f c = separator ↔ c = separator) {values : List β} (hne : values ≠ [])
    (cs : List Char) :
    Grouped separator R (cs.map f) values ↔
      Grouped separator (fun (group : List Char) value ↦ R (group.map f) value) cs values := by
  have hfree : ∀ (group : List Char) value, R (group.map f) value → separator ∉ group := by
    intro group value h hmem
    exact hseparator _ value h (List.mem_map.mpr ⟨separator, hmem, (hf separator).mpr rfl⟩)
  rw [iff_splitOn hseparator hne, iff_splitOn hfree hne, splitOn_map hf, List.forall₂_map_left_iff]

end Grouped

end BleBeacon
