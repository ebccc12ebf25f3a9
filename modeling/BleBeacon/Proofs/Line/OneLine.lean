import Mathlib
import BleBeacon.Proofs.Line.Reading

/-!
# Points on one line

A point adds no line break to those of its names and of the texts in its fields, so behind a
measurement there is none when there is none in these.
-/

namespace BleBeacon.Line

open Observation

/-! ## Characters -/

def IsBreak (c : Char) : Prop := c = '\n' ∨ c = '\r'

instance : DecidablePred IsBreak := fun c ↦ inferInstanceAs (Decidable (c = '\n' ∨ c = '\r'))

def OneLine (cs : List Char) : Prop := ∀ c ∈ cs, ¬ IsBreak c

instance (cs : List Char) : Decidable (OneLine cs) :=
  List.decidableBAll (fun c ↦ ¬ IsBreak c) cs

@[simp] theorem oneLine_nil : OneLine [] := List.forall_mem_nil _

@[simp] theorem oneLine_cons {c : Char} {cs : List Char} :
    OneLine (c :: cs) ↔ ¬ IsBreak c ∧ OneLine cs :=
  List.forall_mem_cons

@[simp] theorem oneLine_append {xs ys : List Char} :
    OneLine (xs ++ ys) ↔ OneLine xs ∧ OneLine ys :=
  List.forall_mem_append

theorem oneLine_flatMap {α : Type} {f : α → List Char} {xs : List α}
    (h : ∀ a ∈ xs, OneLine (f a)) : OneLine (xs.flatMap f) := by
  intro c hc
  obtain ⟨a, ha, hc⟩ := List.mem_flatMap.mp hc
  exact h a ha c hc

theorem OneLine.of_subset {xs ys : List Char} (h : OneLine ys) (hsubset : xs ⊆ ys) : OneLine xs :=
  fun c hc ↦ h c (hsubset hc)

/-! ## Floating point numbers -/

theorem oneLine_toDigits (n : Nat) : OneLine (Nat.toDigits 10 n) := by
  intro c hc
  have hdigit : c.isDigit := Nat.isDigit_of_mem_toDigits (by decide) (by decide) hc
  rintro (rfl | rfl) <;> exact absurd hdigit (by decide)

theorem oneLine_zeros (n : Nat) : OneLine (List.replicate n '0') := by
  intro c hc
  rw [List.eq_of_mem_replicate hc]
  decide

theorem stripZeros_subset (ds : List Char) : (Decimal.stripZeros ds).1 ⊆ ds := by
  intro c hc
  rw [Decimal.stripZeros, List.mem_reverse] at hc
  exact List.mem_reverse.mp (List.drop_subset _ _ hc)

theorem oneLine_positional (d : Decimal) : OneLine d.positional := by
  have hdigits := (oneLine_toDigits d.digits).of_subset (stripZeros_subset _)
  have htake := fun n ↦ hdigits.of_subset (List.take_subset n _)
  have hdrop := fun n ↦ hdigits.of_subset (List.drop_subset n _)
  unfold Decimal.positional
  dsimp only
  split_ifs
  · exact oneLine_append.mpr ⟨hdigits, oneLine_zeros _⟩
  · exact oneLine_append.mpr ⟨htake _, oneLine_cons.mpr ⟨by decide, hdrop _⟩⟩
  · refine oneLine_append.mpr ⟨oneLine_cons.mpr ⟨by decide, oneLine_cons.mpr ⟨by decide, ?_⟩⟩,
      hdigits⟩
    exact oneLine_zeros _

theorem oneLine_decimal (x : Float) : OneLine (Decimal.text x).toList := by
  have hsign : OneLine (if x.toBits >>> 63 = 1 then "-" else "").toList := by
    split_ifs <;> decide
  unfold Decimal.text
  dsimp only
  generalize (if x.toBits >>> 63 = 1 then "-" else "") = sign at hsign ⊢
  split_ifs
  · decide
  · rw [String.toList_append, oneLine_append]
    exact ⟨hsign, by decide⟩
  · rw [String.toList_append, oneLine_append]
    exact ⟨hsign, by decide⟩
  · rw [String.toList_append, oneLine_append, String.toList_ofList]
    exact ⟨hsign, oneLine_positional _⟩

/-! ## Parts of a point -/

theorem oneLine_toString_int (n : Int) : OneLine (toString n).toList := by
  rintro c hc (rfl | rfl)
  · exact not_mem_toString_int (by decide) (by decide) n hc
  · exact not_mem_toString_int (by decide) (by decide) n hc

theorem oneLine_render_integer (n : Int) : OneLine (FieldValue.integer n).render.toList := by
  rw [FieldValue.toList_render_integer, oneLine_append]
  exact ⟨oneLine_toString_int n, by decide⟩

/-- Escapes put only backslashes in front of what stands there. -/
theorem oneLine_quote {s : String} (hs : OneLine s.toList) : OneLine (quote s).toList := by
  rw [toList_quote, oneLine_cons, oneLine_append]
  refine ⟨by decide, oneLine_flatMap fun c hc ↦ ?_, by decide⟩
  rcases escapeChar_cases c with h | ⟨-, -, h⟩ <;> rw [h]
  · exact oneLine_cons.mpr ⟨by decide, oneLine_cons.mpr ⟨hs c hc, oneLine_nil⟩⟩
  · exact oneLine_cons.mpr ⟨hs c hc, oneLine_nil⟩

theorem oneLine_endText (time : Option Int) : OneLine (endText time) := by
  cases time with
  | none => exact oneLine_nil
  | some t => exact oneLine_cons.mpr ⟨by decide, oneLine_toString_int t⟩

theorem oneLine_tagsText {tags : List (String × String)}
    (htags : ∀ tag ∈ tags, OneLine tag.1.toList ∧ OneLine tag.2.toList) :
    OneLine (tagsText tags).toList := by
  rw [toList_tagsText]
  refine oneLine_flatMap fun tag htag ↦ ?_
  obtain ⟨hkey, hvalue⟩ := htags tag htag
  rw [oneLine_cons, tagText, oneLine_append, oneLine_cons]
  exact ⟨by decide, hkey, by decide, hvalue⟩

theorem oneLine_fieldsText {fields : List (String × FieldValue)}
    (hfields : ∀ field ∈ fields, OneLine field.1.toList ∧ OneLine field.2.render.toList) :
    OneLine (fieldsText fields).toList := by
  have htext : ∀ field ∈ fields, OneLine (fieldText field) := by
    intro field hfield
    obtain ⟨hkey, hvalue⟩ := hfields field hfield
    rw [fieldText, oneLine_append, oneLine_cons]
    exact ⟨hkey, by decide, hvalue⟩
  cases fields with
  | nil => exact oneLine_nil
  | cons field fields =>
    obtain ⟨hfirst, hmore⟩ := List.forall_mem_cons.mp htext
    rw [toList_fieldsText_cons, oneLine_append]
    exact ⟨hfirst, oneLine_flatMap fun f hf ↦ oneLine_cons.mpr ⟨by decide, hmore f hf⟩⟩

theorem KeyMap.mem_of_mem_ofList {α : Type} {pairs : List (String × α)} {e : String × α}
    (h : e ∈ (KeyMap.ofList pairs).entries) : e ∈ pairs := by
  have hfold : ∀ (pairs : List (String × α)) (m : KeyMap α),
      e ∈ (pairs.foldl (fun m pair ↦ m.insert pair.1 pair.2) m).entries →
        e ∈ m.entries ∨ e ∈ pairs := by
    intro pairs
    induction pairs with
    | nil => exact fun m hm ↦ .inl hm
    | cons pair pairs ih =>
      intro m hm
      rcases ih _ hm with hinsert | hmore
      · rcases KeyMap.mem_insertEntry hinsert with rfl | hold
        · exact .inr List.mem_cons_self
        · exact .inl hold
      · exact .inr (List.mem_cons_of_mem _ hmore)
  rcases hfold pairs .empty h with hempty | hmem
  · cases hempty
  · exact hmem

theorem Point.oneLine_behind {p : Point}
    (htags : ∀ tag ∈ p.tags.entries, OneLine tag.1.toList ∧ OneLine tag.2.toList)
    (hfields : ∀ field ∈ p.fields.entries,
      OneLine field.1.toList ∧ OneLine field.2.render.toList) : OneLine p.behind := by
  rw [behind, oneLine_append, oneLine_cons, oneLine_append]
  exact ⟨oneLine_tagsText htags, by decide, oneLine_fieldsText hfields, oneLine_endText _⟩

end BleBeacon.Line
