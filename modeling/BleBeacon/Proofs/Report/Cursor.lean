import Mathlib
import BleBeacon.Report

/-!
# Readers of an event

A reader takes the bytes that spell its value and no others, and the only thing that can stop it is
the end of the event.  Readers that are run one after another do the same for the joined bytes, so a
reader of many fields needs no argument of its own.
-/

namespace BleBeacon.EventCursor

/-- The bytes of the event, those before the place included. -/
def total (c : EventCursor) : Nat := c.position + c.rest.length

/-- Errors that say that a field ends behind the event. -/
def Overrun (c : EventCursor) (e : DecodeError) : Prop :=
  ∃ field needed, e = .malformedReport field needed c.total ∧ c.total < needed

/-- The place behind the first bytes of a place that starts with them. -/
def Follows (c : EventCursor) (front : Bytes) (c' : EventCursor) : Prop :=
  c.rest = front ++ c'.rest ∧ c'.position = c.position + front.length

-- The event stays as long as it is while it is read.
theorem Follows.total_eq {c c' : EventCursor} {front : Bytes} (h : c.Follows front c') :
    c'.total = c.total := by
  rcases h with ⟨hrest, hposition⟩
  rw [total, total, hrest, hposition, List.length_append]
  omega

theorem Follows.overrun {c c' : EventCursor} {front : Bytes} {e : DecodeError}
    (h : c.Follows front c') (he : c'.Overrun e) : c.Overrun e := by
  rw [Overrun, h.total_eq] at he
  exact he

theorem Follows.append {c₁ c₂ c₃ : EventCursor} {front back : Bytes} (h₁ : c₁.Follows front c₂)
    (h₂ : c₂.Follows back c₃) : c₁.Follows (front ++ back) c₃ := by
  rcases h₁ with ⟨hrest₁, hposition₁⟩
  rcases h₂ with ⟨hrest₂, hposition₂⟩
  refine ⟨?_, ?_⟩
  · rw [hrest₁, hrest₂, List.append_assoc]
  · rw [hposition₂, hposition₁, List.length_append, Nat.add_assoc]

/-- Only one place stands behind given bytes of a place. -/
theorem Follows.exists_split {c₁ c₃ : EventCursor} {front back : Bytes}
    (h : c₁.Follows (front ++ back) c₃) :
    ∃ c₂, c₁.Follows front c₂ ∧ c₂.Follows back c₃ := by
  rcases h with ⟨hrest, hposition⟩
  refine ⟨⟨c₁.position + front.length, back ++ c₃.rest⟩, ⟨?_, rfl⟩, rfl, ?_⟩
  · rw [hrest, List.append_assoc]
  · rw [hposition, List.length_append, Nat.add_assoc]

/-- A reader whose values are spelled by the bytes that it takes. -/
structure Reads {α : Type} (read : EventCursor → Except DecodeError (α × EventCursor))
    (Spelled : α → Bytes → Prop) : Prop where
  complete {c c' : EventCursor} {a : α} {front : Bytes} :
    Spelled a front → c.Follows front c' → read c = .ok (a, c')
  sound {c c' : EventCursor} {a : α} :
    read c = .ok (a, c') → ∃ front, Spelled a front ∧ c.Follows front c'
  fails {c : EventCursor} {e : DecodeError} : read c = .error e → c.Overrun e

namespace Reads

variable {α β : Type} {read : EventCursor → Except DecodeError (α × EventCursor)}
  {Spelled Spelled' : α → Bytes → Prop}

theorem congr (h : Reads read Spelled) (hiff : ∀ a bytes, Spelled a bytes ↔ Spelled' a bytes) :
    Reads read Spelled' := by
  have heq : Spelled = Spelled' := by
    funext a bytes
    exact propext (hiff a bytes)
  rw [← heq]
  exact h

theorem pure (a : α) : Reads (fun c ↦ .ok (a, c)) fun b bytes ↦ b = a ∧ bytes = [] where
  complete := by
    intro c c' b front hspelled hfollows
    rcases hspelled with ⟨rfl, rfl⟩
    rcases hfollows with ⟨hrest, hposition⟩
    have hsame : c = c' := by
      cases c
      cases c'
      simp_all
    rw [hsame]
  sound := by
    intro c c' b h
    cases h
    exact ⟨[], ⟨rfl, rfl⟩, rfl, rfl⟩
  fails := by
    intro c e h
    cases h

theorem bind {next : α → EventCursor → Except DecodeError (β × EventCursor)}
    {SpelledNext : α → β → Bytes → Prop} (h : Reads read Spelled)
    (hnext : ∀ a, Reads (next a) (SpelledNext a)) :
    Reads (fun c ↦ read c >>= fun p ↦ next p.1 p.2) fun b bytes ↦
      ∃ a front back, bytes = front ++ back ∧ Spelled a front ∧ SpelledNext a b back where
  complete := by
    intro c c' b bytes hspelled hfollows
    rcases hspelled with ⟨a, front, back, rfl, hfront, hback⟩
    rcases hfollows.exists_split with ⟨c₂, hfirst, hsecond⟩
    rw [h.complete hfront hfirst]
    exact (hnext a).complete hback hsecond
  sound := by
    intro c c' b hread
    change (read c >>= fun p ↦ next p.1 p.2) = _ at hread
    cases hfirst : read c with
    | error e =>
      rw [hfirst] at hread
      cases hread
    | ok p =>
      rcases p with ⟨a, c₂⟩
      rw [hfirst] at hread
      rcases h.sound hfirst with ⟨front, hfront, hfollows⟩
      rcases (hnext a).sound hread with ⟨back, hback, hbehind⟩
      exact ⟨front ++ back, ⟨a, front, back, rfl, hfront, hback⟩, hfollows.append hbehind⟩
  fails := by
    intro c e hread
    change (read c >>= fun p ↦ next p.1 p.2) = _ at hread
    cases hfirst : read c with
    | error e' =>
      rw [hfirst] at hread
      cases hread
      exact h.fails hfirst
    | ok p =>
      rcases p with ⟨a, c₂⟩
      rw [hfirst] at hread
      rcases h.sound hfirst with ⟨front, hfront, hfollows⟩
      exact hfollows.overrun ((hnext a).fails hread)

end Reads

/-! ## Single fields -/

theorem reads_take (field : ReportField) (n : Nat) :
    Reads (fun c ↦ c.take field n) fun octets bytes ↦ octets.1 = bytes where
  complete := by
    intro c c' octets front hspelled hfollows
    rcases hfollows with ⟨hrest, hposition⟩
    have hlength : front.length = n := by rw [← hspelled, octets.2]
    have henough : n ≤ c.rest.length := by
      rw [hrest, List.length_append]
      omega
    have htake : Octets.ofTake c.rest n henough = octets := by
      apply Subtype.ext
      rw [Octets.ofTake, hspelled]
      change c.rest.take n = front
      rw [hrest, ← hlength, List.take_left]
    have hdrop : c.rest.drop n = c'.rest := by rw [hrest, ← hlength, List.drop_left]
    have hbehind : (⟨c.position + n, c.rest.drop n⟩ : EventCursor) = c' := by
      rw [hdrop, ← hlength, ← hposition]
    change c.take field n = _
    rw [take, dif_pos henough, htake, hbehind]
  sound := by
    intro c c' octets h
    change c.take field n = _ at h
    unfold take at h
    split at h
    · rename_i henough
      cases h
      refine ⟨c.rest.take n, rfl, (List.take_append_drop n c.rest).symm, ?_⟩
      rw [List.length_take, Nat.min_eq_left henough]
    · cases h
  fails := by
    intro c e h
    change c.take field n = _ at h
    unfold take at h
    split at h
    · cases h
    · rename_i hshort
      cases h
      refine ⟨field, c.position + n, rfl, ?_⟩
      rw [total]
      omega

theorem byte_eq_iff (octets : Octets 1) (b : UInt8) : octets.byte = b ↔ octets.1 = [b] := by
  rcases octets with ⟨bytes, hlength⟩
  rcases List.length_eq_one_iff.mp hlength with ⟨c, rfl⟩
  change c = b ↔ [c] = [b]
  rw [List.singleton_inj]

theorem reads_byte (field : ReportField) :
    Reads (fun c ↦ c.byte field) fun b bytes ↦ bytes = [b] := by
  refine ((reads_take field 1).bind fun octets ↦ Reads.pure octets.byte).congr ?_
  intro b bytes
  constructor
  · rintro ⟨octets, front, back, rfl, hfront, rfl, rfl⟩
    rw [List.append_nil, ← hfront]
    exact (byte_eq_iff octets _).mp rfl
  · rintro rfl
    exact ⟨⟨[b], rfl⟩, [b], [], rfl, rfl, rfl, rfl⟩

end BleBeacon.EventCursor
