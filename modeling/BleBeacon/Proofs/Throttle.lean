import Mathlib
import BleBeacon.Throttle

/-!
# Throttles and their keys

An event changes what a throttle knows about its own key only.  So two throttles that know the same
about some keys go on answering alike for these, whatever happens to the others.
-/

namespace BleBeacon.Throttle

variable {κ : Type} [BEq κ] [LawfulBEq κ]

theorem last?_remember_self (t : Throttle κ) (key : κ) (now : Nat) :
    (t.remember key now).last? key = some now := by
  rw [last?, remember, List.lookup_cons_self]

theorem last?_remember_of_ne (t : Throttle κ) {key other : κ} (h : other ≠ key) (now : Nat) :
    (t.remember key now).last? other = t.last? other := by
  have hlookup : ∀ entries : List (κ × Nat),
      (entries.filter (!·.1 == key)).lookup other = entries.lookup other := by
    intro entries
    induction entries with
    | nil => rfl
    | cons entry rest ih =>
      rcases entry with ⟨k, last⟩
      by_cases hk : k = key
      · subst hk
        rw [List.filter_cons_of_neg (by simp), ih, List.lookup_cons, beq_false_of_ne h]
      · rw [List.filter_cons_of_pos (by simpa using hk), List.lookup_cons, List.lookup_cons, ih]
  rw [last?, remember, List.lookup_cons, beq_false_of_ne h]
  exact hlookup t.lastSeen

/-- Throttles of one interval that know the same about the keys of a set. -/
def AgreeOn (p : κ → Prop) (t t' : Throttle κ) : Prop :=
  t.interval = t'.interval ∧ ∀ key, p key → t.last? key = t'.last? key

variable {p : κ → Prop} {t t' : Throttle κ} {key : κ}

theorem AgreeOn.remember (h : AgreeOn p t t') (key : κ) (now : Nat) :
    AgreeOn p (t.remember key now) (t'.remember key now) := by
  refine ⟨h.1, fun other hother ↦ ?_⟩
  by_cases hsame : other = key
  · rw [hsame, last?_remember_self, last?_remember_self]
  · rw [last?_remember_of_ne t hsame, last?_remember_of_ne t' hsame, h.2 other hother]

/-- Both throttles answer alike for a key of the set, and still agree. -/
theorem AgreeOn.admits (h : AgreeOn p t t') (hkey : p key) (now : Nat) :
    (t.admits key now).1 = (t'.admits key now).1 ∧
      AgreeOn p (t.admits key now).2 (t'.admits key now).2 := by
  rw [Throttle.admits, Throttle.admits, ← h.2 key hkey, ← h.1]
  cases t.last? key with
  | none => exact ⟨rfl, h.remember key now⟩
  | some last =>
    by_cases hearly : now - last < t.interval
    · simp only [if_pos hearly]
      exact ⟨trivial, h⟩
    · simp only [if_neg hearly]
      exact ⟨trivial, h.remember key now⟩

/-- What happens to a key outside the set makes no difference to those inside. -/
theorem AgreeOn.admits_left (h : AgreeOn p t t') (hkey : ¬ p key) (now : Nat) :
    AgreeOn p (t.admits key now).2 t' := by
  have hremember : AgreeOn p (t.remember key now) t' := by
    refine ⟨h.1, fun other hother ↦ ?_⟩
    have hne : other ≠ key := fun hsame ↦ hkey (hsame ▸ hother)
    rw [last?_remember_of_ne t hne, h.2 other hother]
  rw [Throttle.admits]
  split
  · split
    · exact h
    · exact hremember
  · exact hremember

end BleBeacon.Throttle
