import Mathlib
import BleBeacon.Proofs.Throttle
import BleBeacon.Beacon.Basic

/-!
# Whole runs of a throttle

What has happened before an event tells whether it passes: it does unless an event of its own key
has passed less than the interval ago.  A throttle keeps no more than one reading for each key, the
last at which an event passed.  With a clock that never goes back this is enough.
-/

namespace BleBeacon.Throttle

/-- An event together with what a throttle has answered. -/
structure Answered (κ : Type) where
  key : κ
  clock : Nat
  passes : Bool
deriving DecidableEq

variable {κ : Type}

def Answered.call (a : Answered κ) : κ × Nat := (a.key, a.clock)

variable [BEq κ]

/-- The events of a run with the answers to them. -/
def answered (t : Throttle κ) (calls : List (κ × Nat)) : List (Answered κ) :=
  List.zipWith (fun call passes ↦ ⟨call.1, call.2, passes⟩) calls (t.run calls)

theorem answered_cons (t : Throttle κ) (key : κ) (now : Nat) (rest : List (κ × Nat)) :
    t.answered ((key, now) :: rest) =
      ⟨key, now, (t.admits key now).1⟩ :: (t.admits key now).2.answered rest := rfl

theorem map_call_answered (t : Throttle κ) (calls : List (κ × Nat)) :
    (t.answered calls).map Answered.call = calls := by
  induction calls generalizing t with
  | nil => rfl
  | cons call rest ih => rw [answered_cons, List.map_cons, ih]; rfl

theorem map_passes_answered (t : Throttle κ) (calls : List (κ × Nat)) :
    (t.answered calls).map Answered.passes = t.run calls := by
  induction calls generalizing t with
  | nil => rfl
  | cons call rest ih => rw [answered_cons, List.map_cons, ih]; rfl

/-! ## One event -/

theorem interval_admits (t : Throttle κ) (key : κ) (now : Nat) :
    (t.admits key now).2.interval = t.interval := by
  unfold admits
  split
  · split <;> rfl
  · rfl

/-- A blocked event leaves the throttle as it is. -/
theorem admits_of_blocked {t : Throttle κ} {key : κ} {now : Nat}
    (h : (t.admits key now).1 = false) : (t.admits key now).2 = t := by
  unfold admits at h ⊢
  split
  · rename_i last hlast
    by_cases hearly : now - last < t.interval
    · rw [if_pos hearly]
    · rw [hlast] at h
      simp only [if_neg hearly] at h
      cases h
  · rename_i hlast
    rw [hlast] at h
    cases h

theorem admits_of_passes {t : Throttle κ} {key : κ} {now : Nat}
    (h : (t.admits key now).1 = true) : (t.admits key now).2 = t.remember key now := by
  unfold admits at h ⊢
  split
  · rename_i last hlast
    by_cases hearly : now - last < t.interval
    · rw [hlast] at h
      simp only [if_pos hearly] at h
      cases h
    · rw [if_neg hearly]
  · rfl

/-! ## What a throttle knows of the past -/

/-- A throttle whose readings are the latest at which events of the past have passed. -/
structure Recalls (t : Throttle κ) (past : List (Answered κ)) : Prop where
  passed : ∀ key last, t.last? key = some last →
    ∃ a ∈ past, a.key = key ∧ a.passes = true ∧ a.clock = last
  latest : ∀ a ∈ past, a.passes = true → ∃ last, t.last? a.key = some last ∧ a.clock ≤ last

theorem recalls_new (interval : Nat) : (new interval : Throttle κ).Recalls [] where
  passed _ _ h := by cases h
  latest _ h := by cases h

namespace Recalls

variable {t : Throttle κ} {past : List (Answered κ)} {now : Nat}

theorem admits_iff (h : t.Recalls past) (key : κ) (hclock : ∀ a ∈ past, a.clock ≤ now) :
    (t.admits key now).1 = true ↔
      ¬ ∃ a ∈ past, a.key = key ∧ a.passes = true ∧ now < a.clock + t.interval := by
  unfold admits
  cases hlast : t.last? key with
  | none =>
    refine ⟨fun _ ↦ ?_, fun _ ↦ rfl⟩
    rintro ⟨a, ha, rfl, hpasses, -⟩
    rcases h.latest a ha hpasses with ⟨last, hsome, -⟩
    rw [hlast] at hsome
    cases hsome
  | some last =>
    by_cases hearly : now - last < t.interval
    · simp only [if_pos hearly]
      rcases h.passed key last hlast with ⟨a, ha, hkey, hpasses, hlatest⟩
      have hle := hclock a ha
      have hrecent : now < a.clock + t.interval := by omega
      refine ⟨fun hfalse ↦ absurd hfalse Bool.false_ne_true, fun hnone ↦ ?_⟩
      exact absurd ⟨a, ha, hkey, hpasses, hrecent⟩ hnone
    · simp only [if_neg hearly]
      refine ⟨fun _ ↦ ?_, fun _ ↦ trivial⟩
      rintro ⟨a, ha, rfl, hpasses, hrecent⟩
      rcases h.latest a ha hpasses with ⟨last', hsome, hle⟩
      rw [hlast] at hsome
      cases hsome
      have hpast := hclock a ha
      omega

variable [LawfulBEq κ]

/-- An event that passes is the latest of its key. -/
theorem remember (h : t.Recalls past) (key : κ) (hclock : ∀ a ∈ past, a.clock ≤ now) :
    (t.remember key now).Recalls (past ++ [⟨key, now, true⟩]) where
  passed other last hlast := by
    by_cases hsame : other = key
    · rw [hsame, last?_remember_self] at hlast
      cases hlast
      exact ⟨⟨key, now, true⟩, by simp, hsame.symm, rfl, rfl⟩
    · rw [last?_remember_of_ne t hsame] at hlast
      rcases h.passed other last hlast with ⟨a, ha, hpassed⟩
      exact ⟨a, List.mem_append_left _ ha, hpassed⟩
  latest a ha hpasses := by
    by_cases hsame : a.key = key
    · rw [hsame, last?_remember_self]
      rcases List.mem_append.mp ha with hpast | hnew
      · exact ⟨now, rfl, hclock a hpast⟩
      · rw [List.mem_singleton.mp hnew]
        exact ⟨now, rfl, Nat.le_refl now⟩
    · rw [last?_remember_of_ne t hsame]
      rcases List.mem_append.mp ha with hpast | hnew
      · exact h.latest a hpast hpasses
      · exact absurd (by rw [List.mem_singleton.mp hnew]) hsame

omit [LawfulBEq κ] in
theorem blocked (h : t.Recalls past) (key : κ) : t.Recalls (past ++ [⟨key, now, false⟩]) where
  passed other last hlast := by
    rcases h.passed other last hlast with ⟨a, ha, hpassed⟩
    exact ⟨a, List.mem_append_left _ ha, hpassed⟩
  latest a ha hpasses := by
    rcases List.mem_append.mp ha with hpast | hnew
    · exact h.latest a hpast hpasses
    · rw [List.mem_singleton.mp hnew] at hpasses
      cases hpasses

theorem admits (h : t.Recalls past) (key : κ) (hclock : ∀ a ∈ past, a.clock ≤ now) :
    (t.admits key now).2.Recalls (past ++ [⟨key, now, (t.admits key now).1⟩]) := by
  cases hpasses : (t.admits key now).1 with
  | false =>
    rw [admits_of_blocked hpasses]
    exact h.blocked key
  | true =>
    rw [admits_of_passes hpasses]
    exact h.remember key hclock

/-- The induction is over the events to come, for any past that the throttle recalls. -/
theorem passes_iff (h : t.Recalls past) {calls : List (κ × Nat)}
    (hclock : calls.Pairwise fun c c' ↦ c.2 ≤ c'.2)
    (hpast : ∀ a ∈ past, ∀ c ∈ calls, a.clock ≤ c.2) {before after : List (Answered κ)}
    {a : Answered κ} (hsplit : t.answered calls = before ++ a :: after) :
    a.passes = true ↔ ¬ ∃ a' ∈ past ++ before,
      a'.key = a.key ∧ a'.passes = true ∧ a.clock < a'.clock + t.interval := by
  induction calls generalizing t past before with
  | nil => cases before <;> cases hsplit
  | cons call rest ih =>
    rcases call with ⟨key, now⟩
    rw [answered_cons] at hsplit
    have hnow : ∀ a ∈ past, a.clock ≤ now := fun a ha ↦ hpast a ha _ List.mem_cons_self
    cases before with
    | nil =>
      rw [List.nil_append] at hsplit
      cases hsplit
      rw [List.append_nil]
      exact h.admits_iff key hnow
    | cons first before =>
      rw [List.cons_append] at hsplit
      rcases List.cons.inj hsplit with ⟨hfirst, hrest⟩
      have hpast' : ∀ a ∈ past ++ [first], ∀ c ∈ rest, a.clock ≤ c.2 := by
        intro a ha c hc
        rcases List.mem_append.mp ha with ha | ha
        · exact hpast a ha c (List.mem_cons_of_mem _ hc)
        · rw [List.mem_singleton.mp ha, ← hfirst]
          exact (List.pairwise_cons.mp hclock).1 c hc
      have hrecalls := h.admits key hnow
      rw [hfirst] at hrecalls
      rw [ih hrecalls (List.pairwise_cons.mp hclock).2 hpast' hrest, interval_admits,
        List.append_assoc, List.singleton_append]

end Recalls

/-! ## Events that make no difference -/

/-- Without a blocked event the answers to all others are the same. -/
theorem answered_without_blocked {t : Throttle κ} {calls : List (κ × Nat)}
    {before after : List (Answered κ)} {a : Answered κ}
    (hsplit : t.answered calls = before ++ a :: after) (hblocked : a.passes = false) :
    t.answered ((before ++ after).map Answered.call) = before ++ after := by
  induction calls generalizing t before with
  | nil => cases before <;> cases hsplit
  | cons call rest ih =>
    rcases call with ⟨key, now⟩
    rw [answered_cons] at hsplit
    cases before with
    | nil =>
      rw [List.nil_append] at hsplit ⊢
      rcases List.cons.inj hsplit with ⟨rfl, hrest⟩
      rw [admits_of_blocked hblocked] at hrest
      rw [← hrest, map_call_answered]
    | cons first before =>
      rw [List.cons_append] at hsplit
      rcases List.cons.inj hsplit with ⟨rfl, hrest⟩
      rw [List.cons_append, List.map_cons, Answered.call, answered_cons, ih hrest]

variable [LawfulBEq κ]

/-- Two throttles that know the same of some keys, one of which sees these keys only. -/
theorem AgreeOn.answered_filter {t t' : Throttle κ} {p : κ → Bool} (h : AgreeOn (p · = true) t t')
    (calls : List (κ × Nat)) :
    t'.answered (calls.filter (p ·.1)) = (t.answered calls).filter (p ·.key) := by
  induction calls generalizing t t' with
  | nil => rfl
  | cons call rest ih =>
    rcases call with ⟨key, now⟩
    rw [answered_cons, List.filter_cons, List.filter_cons]
    by_cases hkey : p key = true
    · rcases h.admits hkey now with ⟨hanswer, hagree⟩
      rw [if_pos hkey, if_pos hkey, answered_cons, hanswer, ih hagree]
    · rw [if_neg hkey, if_neg hkey]
      exact ih (h.admits_left hkey now)

/-! ## Whole runs -/

/-- With a clock that never goes back, an event passes if and only if no event of its key has passed
less than the interval before it.  So the first event of a key passes, those of one key that pass
are an interval apart, a blocked event and the events of other keys could as well be missing, and
an interval of zero blocks nothing. -/
theorem passes_iff_interval_since_passed (interval : Nat) (calls : List (κ × Nat))
    (hclock : calls.Pairwise fun c c' ↦ c.2 ≤ c'.2) :
    (((new interval).answered calls).map Answered.call = calls ∧
      ((new interval).answered calls).map Answered.passes = (new interval).run calls) ∧
    (∀ (before : List (Answered κ)) (a : Answered κ) (after : List (Answered κ)),
      (new interval).answered calls = before ++ a :: after →
      (a.passes = true ↔ ¬ ∃ a' ∈ before,
        a'.key = a.key ∧ a'.passes = true ∧ a.clock < a'.clock + interval)) ∧
    (∀ (before : List (Answered κ)) (a : Answered κ) (after : List (Answered κ)),
      (new interval).answered calls = before ++ a :: after →
      (∀ a' ∈ before, a'.key ≠ a.key) → a.passes = true) ∧
    (∀ (before : List (Answered κ)) (a : Answered κ) (between : List (Answered κ))
      (a' : Answered κ) (after : List (Answered κ)),
      (new interval).answered calls = before ++ a :: (between ++ a' :: after) →
      a'.key = a.key → a.passes = true → a'.passes = true → a.clock + interval ≤ a'.clock) ∧
    (∀ (before : List (Answered κ)) (a : Answered κ) (after : List (Answered κ)),
      (new interval).answered calls = before ++ a :: after → a.passes = false →
      (new interval).answered ((before ++ after).map Answered.call) = before ++ after) ∧
    (∀ key, (new interval).answered (calls.filter (·.1 == key)) =
      ((new interval).answered calls).filter (·.key == key)) ∧
    (interval = 0 → ∀ a ∈ (new interval).answered calls, a.passes = true) := by
  have hmono : ((new interval).answered calls).Pairwise fun a a' ↦ a.clock ≤ a'.clock := by
    rw [← map_call_answered (new interval) calls, List.pairwise_map] at hclock
    exact hclock
  have hiff : ∀ (before : List (Answered κ)) (a : Answered κ) (after : List (Answered κ)),
      (new interval).answered calls = before ++ a :: after →
      (a.passes = true ↔ ¬ ∃ a' ∈ before,
        a'.key = a.key ∧ a'.passes = true ∧ a.clock < a'.clock + interval) := by
    intro before a after hsplit
    exact (recalls_new interval).passes_iff hclock (by simp) hsplit
  refine ⟨⟨map_call_answered _ calls, map_passes_answered _ calls⟩, hiff, ?_, ?_, ?_, ?_, ?_⟩
  · intro before a after hsplit hfirst
    apply (hiff before a after hsplit).mpr
    rintro ⟨a', ha', hkey, -⟩
    exact hfirst a' ha' hkey
  · intro before a between a' after hsplit hkey hpasses hpasses'
    rw [← List.cons_append, ← List.append_assoc] at hsplit
    by_contra hrecent
    apply (hiff _ a' after hsplit).mp hpasses'
    exact ⟨a, by simp, hkey.symm, hpasses, Nat.not_le.mp hrecent⟩
  · intro before a after hsplit hblocked
    exact answered_without_blocked hsplit hblocked
  · intro key
    have hagree : AgreeOn ((· == key) · = true) (new interval) (new interval) :=
      ⟨rfl, fun _ _ ↦ rfl⟩
    exact hagree.answered_filter calls
  · rintro rfl a ha
    rcases List.append_of_mem ha with ⟨before, after, hsplit⟩
    apply (hiff before a after hsplit).mpr
    rintro ⟨a', ha', hkey, hpasses, hrecent⟩
    rw [hsplit] at hmono
    have hle := (List.pairwise_append.mp hmono).2.2 a' ha' a List.mem_cons_self
    omega

/-- An iBeacon that is heard often, and an Eddystone beacon in between. -/
def chattyRun : List (BeaconKind × Nat) :=
  [(.iBeacon, 0), (.eddystone, 5), (.iBeacon, 10), (.iBeacon, 20), (.iBeacon, 35)]

theorem passes_iff_interval_since_passed_chattyRun :
    (chattyRun.Pairwise fun c c' ↦ c.2 ≤ c'.2) ∧
    (new 30).run chattyRun = [true, true, false, false, true] ∧
    (new 30).run [(BeaconKind.iBeacon, 0), (.eddystone, 5), (.iBeacon, 20), (.iBeacon, 35)] =
      [true, true, false, true] ∧
    (new 30).run [(BeaconKind.iBeacon, 0), (.iBeacon, 10), (.iBeacon, 20), (.iBeacon, 35)] =
      [true, false, false, true] ∧
    ∀ a ∈ (new 0).answered chattyRun, a.passes = true := by
  have hclock : chattyRun.Pairwise fun c c' ↦ c.2 ≤ c'.2 := by decide
  have hanswered : (new 30).answered chattyRun =
      [⟨.iBeacon, 0, true⟩, ⟨.eddystone, 5, true⟩] ++ ⟨.iBeacon, 10, false⟩ ::
        [⟨.iBeacon, 20, false⟩, ⟨.iBeacon, 35, true⟩] := rfl
  rcases passes_iff_interval_since_passed 30 chattyRun hclock with
    ⟨⟨-, hrun⟩, -, -, -, hblocked, hkeys, -⟩
  rcases passes_iff_interval_since_passed 0 chattyRun hclock with ⟨-, -, -, -, -, -, hzero⟩
  have hwithout := hblocked _ _ _ hanswered rfl
  have hiBeacon := hkeys .iBeacon
  refine ⟨hclock, ?_, ?_, ?_, hzero rfl⟩
  · rw [← hrun, hanswered]
    rfl
  · rw [← map_passes_answered]
    exact congrArg (List.map Answered.passes) hwithout
  · rw [← map_passes_answered]
    refine (congrArg (List.map Answered.passes) hiBeacon).trans ?_
    rw [hanswered]
    rfl

end BleBeacon.Throttle
