import Mathlib
import BleBeacon.Proofs.AdStructure

/-!
# What a payload is made of

Every payload is a row of structures and an end, in exactly one way, and the walk finds both: it
gives the structures in order, and an error behind them if and only if the next one is cut off.  A
walk that is asked for its next item again and again gives its items one by one and then nothing.
-/

namespace BleBeacon

/-! ## Ends -/

/-- Why no further structure follows. -/
inductive AdEnd where
  | usedUp
  | zeroLength
  -- A structure declares more bytes than remain behind its length.
  | cutOff (declared remaining : Nat)
deriving DecidableEq, Repr

namespace AdEnd

/-- What stands behind the last structure. -/
inductive At : AdEnd → Bytes → Prop where
  | usedUp : At .usedUp []
  | zeroLength (tail : Bytes) : At .zeroLength (0 :: tail)
  | cutOff {length : UInt8} {tail : Bytes} (h : tail.length < length.toNat) :
      At (.cutOff length.toNat tail.length) (length :: tail)

/-- The error that an end at an offset gives. -/
def error? (offset : Nat) : AdEnd → Option DecodeError
  | cutOff declared remaining => some (.truncatedStructure offset declared remaining)
  | _ => none

variable {stop : AdEnd} {rest : Bytes}

theorem At.unique {stop' : AdEnd} (h : stop.At rest) (h' : stop'.At rest) : stop = stop' := by
  cases h with
  | usedUp =>
    cases h'
    rfl
  | zeroLength tail =>
    cases h' with
    | zeroLength => rfl
    | cutOff hlt => exact absurd hlt (Nat.not_lt_zero _)
  | cutOff hlt =>
    cases h' with
    | zeroLength => exact absurd hlt (Nat.not_lt_zero _)
    | cutOff => rfl

theorem At.items (h : stop.At rest) (offset : Nat) :
    (AdWalk.mk offset rest).items = (stop.error? offset).toList.map .error := by
  cases h with
  | usedUp => exact AdWalk.items_nil offset
  | zeroLength tail => exact AdWalk.items_zero offset tail
  | cutOff hlt => exact AdWalk.items_truncated offset _ _ hlt

end AdEnd

/-- Bytes that do not start with a structure are at an end. -/
theorem AdStructure.exists_end_or_serialize (offset : Nat) (rest : Bytes) :
    (∃ stop : AdEnd, stop.At rest) ∨ ∃ (s : AdStructure) (tail : Bytes), s.offset = offset ∧
      s.data.length ≤ 254 ∧ rest = s.serialize ++ tail := by
  cases rest with
  | nil => exact .inl ⟨.usedUp, .usedUp⟩
  | cons length tail =>
    by_cases hzero : length = 0
    · subst hzero
      exact .inl ⟨.zeroLength, .zeroLength tail⟩
    by_cases hshort : tail.length < length.toNat
    · exact .inl ⟨.cutOff length.toNat tail.length, .cutOff hshort⟩
    have hpos : 0 < length.toNat := Nat.pos_of_ne_zero fun h ↦ hzero (UInt8.toNat_inj.mp h)
    have hlt := length.toNat_lt
    cases tail with
    | nil => exact absurd hpos hshort
    | cons type tail =>
      rw [List.length_cons] at hshort
      have hdata : (tail.take (length.toNat - 1)).length = length.toNat - 1 := by
        rw [List.length_take]
        omega
      refine .inr ⟨⟨offset, type, tail.take (length.toNat - 1)⟩, tail.drop (length.toNat - 1), rfl,
        ?_, ?_⟩
      · dsimp only
        omega
      · rw [serialize]
        dsimp only
        rw [hdata, Nat.sub_add_cancel hpos, UInt8.ofNat_toNat, List.cons_append, List.cons_append,
          List.take_append_drop]

/-! ## Layouts -/

/-- The structures from a place in a payload on, and the end behind them. -/
structure AdWalk.Layout (w : AdWalk) (structures : List AdStructure) (stop : AdEnd) : Prop where
  laid : AdStructure.LaidFrom w.offset structures
  front : structures.flatMap AdStructure.serialize <+: w.rest
  behind : stop.At (w.rest.drop (structures.flatMap AdStructure.serialize).length)

namespace AdWalk

variable {w : AdWalk} {structures : List AdStructure} {stop : AdEnd}

theorem Layout.of_end (h : stop.At w.rest) : w.Layout [] stop where
  laid := trivial
  front := List.nil_prefix
  behind := h

theorem Layout.cons {s : AdStructure} {tail : Bytes} (hlength : s.data.length ≤ 254)
    (h : (AdWalk.mk (s.offset + s.serialize.length) tail).Layout structures stop) :
    (AdWalk.mk s.offset (s.serialize ++ tail)).Layout (s :: structures) stop where
  laid := ⟨rfl, hlength, h.laid⟩
  front := by
    rw [List.flatMap_cons]
    exact (List.prefix_append_right_inj _).mpr h.front
  behind := by
    rw [List.flatMap_cons, List.length_append, ← List.drop_drop, List.drop_left]
    exact h.behind

theorem exists_layout (w : AdWalk) : ∃ structures stop, w.Layout structures stop := by
  obtain ⟨offset, rest⟩ := w
  induction hn : rest.length using Nat.strong_induction_on generalizing offset rest with
  | h n ih =>
    rcases AdStructure.exists_end_or_serialize offset rest with
      ⟨stop, hstop⟩ | ⟨s, tail, rfl, hlength, rfl⟩
    · exact ⟨[], stop, .of_end hstop⟩
    · have hshorter : tail.length < n := by
        rw [← hn, List.length_append, AdStructure.length_serialize]
        omega
      obtain ⟨structures, stop, hlayout⟩ := ih _ hshorter (s.offset + s.serialize.length) tail rfl
      exact ⟨s :: structures, stop, .cons hlength hlayout⟩

/-- The items of a walk are the structures of its layout and the error of its end. -/
theorem Layout.items (h : w.Layout structures stop) :
    w.items = structures.map .ok ++
      (stop.error? (w.offset + (structures.flatMap AdStructure.serialize).length)).toList.map
        .error := by
  obtain ⟨offset, rest⟩ := w
  obtain ⟨hlaid, ⟨tail, rfl⟩, hbehind⟩ := h
  rw [List.drop_left] at hbehind
  rw [items_serialize offset structures tail hlaid, hbehind.items]

theorem Layout.structures_eq (h : w.Layout structures stop) :
    structures = w.items.filterMap Except.toOption := by
  rw [h.items, List.filterMap_append, List.filterMap_map, List.filterMap_map]
  simp [Function.comp_def, Except.toOption]

theorem Layout.unique {structures' : List AdStructure} {stop' : AdEnd}
    (h : w.Layout structures stop) (h' : w.Layout structures' stop') :
    structures' = structures ∧ stop' = stop := by
  have hsame : structures' = structures := h'.structures_eq.trans h.structures_eq.symm
  subst hsame
  exact ⟨rfl, h'.behind.unique h.behind⟩

/-! ## Asking again and again -/

/-- The answer to a request for the next item, and the walk behind it.  Nothing follows the end. -/
def request (w : AdWalk) : Option (Except DecodeError AdStructure) × AdWalk :=
  match w.next? with
  | some (item, w') => (some item, w')
  | none => (none, ⟨w.offset, []⟩)

/-- The walk behind a number of requests. -/
def after (w : AdWalk) : Nat → AdWalk
  | 0 => w
  | count + 1 => w.request.2.after count

theorem request_eq (w : AdWalk) :
    w.request.1 = w.items.head? ∧ w.request.2.items = w.items.tail := by
  cases hnext : w.next? with
  | none =>
    rw [request, hnext, items_eq_nil hnext]
    exact ⟨rfl, items_nil _⟩
  | some step =>
    rw [request, hnext, items_eq_cons hnext]
    exact ⟨rfl, rfl⟩

theorem items_after (w : AdWalk) (count : Nat) : (w.after count).items = w.items.drop count := by
  induction count generalizing w with
  | zero => rfl
  | succ count ih => rw [after, ih, (request_eq w).2, List.drop_tail]

theorem request_after (w : AdWalk) (count : Nat) :
    (w.after count).request.1 = w.items[count]? := by
  rw [(request_eq _).1, items_after, List.head?_drop]

/-- Skipping items is asking for them, as long as there are so many. -/
theorem skip?_eq (w : AdWalk) (count : Nat) :
    w.skip? count = if count ≤ w.items.length then some (w.after count) else none := by
  induction count generalizing w with
  | zero => rfl
  | succ count ih =>
    rw [skip?, after, request]
    cases hnext : w.next? with
    | none => rw [items_eq_nil hnext, List.length_nil, if_neg (Nat.not_succ_le_zero count)]
    | some step =>
      obtain ⟨item, w'⟩ := step
      simp only [ih, items_eq_cons hnext, List.length_cons, Nat.add_le_add_iff_right]

end AdWalk

/-! ## Rows of structures -/

/-- Structures with these types and data, one behind the other from an offset on. -/
def AdStructure.row (offset : Nat) : List (UInt8 × Bytes) → List AdStructure
  | [] => []
  | (type, data) :: more => ⟨offset, type, data⟩ :: row (offset + (data.length + 2)) more

theorem AdStructure.laidFrom_row {records : List (UInt8 × Bytes)}
    (h : ∀ r ∈ records, r.2.length ≤ 254) (offset : Nat) :
    LaidFrom offset (row offset records) := by
  induction records generalizing offset with
  | nil => trivial
  | cons r records ih =>
    obtain ⟨hr, hrecords⟩ := List.forall_mem_cons.mp h
    exact ⟨rfl, hr, ih hrecords _⟩

/-- The walk over a payload is exact and loses nothing.  It finds the one layout that the payload
has, structure by structure, with an error at the end only if a structure is cut off.  Whatever
structures are written in front of nothing or of a zero are what it finds.  Asked for more, it
gives its items in order and then nothing, and a copy of it goes on in the same way. -/
theorem adItems_exact_and_lossless :
    (∀ payload, ∃ structures stop, (AdWalk.ofPayload payload).Layout structures stop ∧
      (∀ structures' stop', (AdWalk.ofPayload payload).Layout structures' stop' →
        structures' = structures ∧ stop' = stop) ∧
      adItems payload = structures.map .ok ++
        (stop.error? (structures.flatMap AdStructure.serialize).length).toList.map .error) ∧
    (∀ records : List (UInt8 × Bytes), (∀ r ∈ records, r.2.length ≤ 254) →
      ∀ tail : Bytes, (tail = [] ∨ tail.head? = some 0) →
        adItems ((AdStructure.row 0 records).flatMap AdStructure.serialize ++ tail) =
          (AdStructure.row 0 records).map .ok) ∧
    ∀ (w : AdWalk) (count : Nat),
      w.skip? count = (if count ≤ w.items.length then some (w.after count) else none) ∧
      (w.after count).items = w.items.drop count ∧
      (w.after count).request.1 = w.items[count]? := by
  refine ⟨?_, ?_, fun w count ↦ ⟨w.skip?_eq count, w.items_after count, w.request_after count⟩⟩
  · intro payload
    obtain ⟨structures, stop, hlayout⟩ := (AdWalk.ofPayload payload).exists_layout
    refine ⟨structures, stop, hlayout, fun _ _ h' ↦ hlayout.unique h', ?_⟩
    have hitems := hlayout.items
    rw [AdWalk.ofPayload, Nat.zero_add] at hitems
    exact hitems
  · intro records hrecords tail htail
    rw [adItems_serialize _ tail (AdStructure.laidFrom_row hrecords 0)]
    have hend : ∃ stop : AdEnd, stop.At tail ∧ ∀ offset, stop.error? offset = none := by
      rcases htail with rfl | hzero
      · exact ⟨.usedUp, .usedUp, fun _ ↦ rfl⟩
      · rw [List.eq_cons_of_mem_head? hzero]
        exact ⟨.zeroLength, .zeroLength _, fun _ ↦ rfl⟩
    obtain ⟨stop, hstop, hnone⟩ := hend
    rw [hstop.items, hnone, Option.toList_none, List.map_nil, List.append_nil]

/-- Flags and an empty name, and behind the zero what would be a structure that is cut off. -/
def namelessPayload : Bytes := [0x02, 0x01, 0x06, 0x01, 0x09, 0x00, 0x05, 0xFF]

theorem adItems_exact_and_lossless_namelessPayload :
    (∀ r ∈ ([(0x01, [0x06]), (0x09, [])] : List (UInt8 × Bytes)), r.2.length ≤ 254) ∧
    ([0x00, 0x05, 0xFF] : Bytes).head? = some 0 ∧
    adItems namelessPayload = [.ok ⟨0, 0x01, [0x06]⟩, .ok ⟨3, 0x09, []⟩] := by
  have hrecords : ∀ r ∈ ([(0x01, [0x06]), (0x09, [])] : List (UInt8 × Bytes)),
      r.2.length ≤ 254 := by decide
  have hzero : ([0x00, 0x05, 0xFF] : Bytes).head? = some 0 := rfl
  exact ⟨hrecords, hzero, adItems_exact_and_lossless.2.1 _ hrecords _ (.inr hzero)⟩

end BleBeacon
