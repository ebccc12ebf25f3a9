import Mathlib
import BleBeacon.SensorTag.Value

/-!
# Decoders of fields

A decoder that reads fields in a fixed order fails for the first of them that is not there, and
otherwise its result is made of the bytes at their places and of nothing else.  `Field.Reads` says
this of a decoder, and decoders built from reads have it by construction.
-/

namespace BleBeacon.Field

/-- A place in a value: its first byte and the number of its bytes. -/
structure Place where
  offset : Nat
  width : Nat
deriving DecidableEq, Repr

namespace Place

/-- Places that are there in a value of `n` bytes. -/
def Inside (p : Place) (n : Nat) : Prop := p.offset + p.width ≤ n

instance (p : Place) (n : Nat) : Decidable (p.Inside n) :=
  inferInstanceAs (Decidable (p.offset + p.width ≤ n))

/-- The bytes at a place. -/
def part (p : Place) (bytes : Bytes) : Bytes := (bytes.drop p.offset).take p.width

def Within (p w : Place) : Prop := w.offset ≤ p.offset ∧ p.offset + p.width ≤ w.offset + w.width

instance (p w : Place) : Decidable (p.Within w) :=
  inferInstanceAs (Decidable (w.offset ≤ p.offset ∧ p.offset + p.width ≤ w.offset + w.width))

theorem within_of_all {places : List Place} {w : Place}
    (h : (places.all fun p ↦ decide (p.Within w)) = true) : ∀ p ∈ places, p.Within w :=
  fun p hp ↦ of_decide_eq_true (List.all_eq_true.mp h p hp)

theorem part_of_within {p w : Place} (h : p.Within w) (bytes : Bytes) :
    p.part bytes = (⟨p.offset - w.offset, p.width⟩ : Place).part (w.part bytes) := by
  rcases h with ⟨hstart, hend⟩
  have hwidth : min p.width (w.width - (p.offset - w.offset)) = p.width := by omega
  have hoffset : w.offset + (p.offset - w.offset) = p.offset := by omega
  unfold part
  rw [List.drop_take, List.take_take, List.drop_drop, hwidth, hoffset]

/-- Values that agree on a place agree on all places within it. -/
theorem part_eq_of_within {p w : Place} (h : p.Within w) {bytes bytes' : Bytes}
    (heq : w.part bytes = w.part bytes') : p.part bytes = p.part bytes' := by
  rw [part_of_within h, part_of_within h, heq]

end Place

theorem bytesAt_eq (p : Place) (bytes : Bytes) :
    bytesAt bytes p.offset p.width =
      if p.Inside bytes.length then .ok (p.part bytes)
      else .error (.fieldOutOfRange p.offset p.width bytes.length) := by
  unfold bytesAt Bytes.slice?
  by_cases hinside : p.Inside bytes.length
  · have hle : p.offset + p.width ≤ bytes.length := hinside
    rw [if_pos hinside, if_pos hle]
    rfl
  · have hlt : ¬ p.offset + p.width ≤ bytes.length := hinside
    rw [if_neg hinside, if_neg hlt]

/-- What is wrong with `n` bytes of which these places are read in turn. -/
def overrun? (places : List Place) (n : Nat) : Option DecodeError :=
  (places.find? fun p ↦ ¬ p.Inside n).map fun p ↦ .fieldOutOfRange p.offset p.width n

theorem overrun?_cons_of_inside {p : Place} {n : Nat} (h : p.Inside n) (places : List Place) :
    overrun? (p :: places) n = overrun? places n := by
  unfold overrun?
  rw [List.find?_cons_of_neg (by simpa using h)]

theorem overrun?_cons_of_not_inside {p : Place} {n : Nat} (h : ¬ p.Inside n)
    (places : List Place) :
    overrun? (p :: places) n = some (.fieldOutOfRange p.offset p.width n) := by
  unfold overrun?
  rw [List.find?_cons_of_pos (by simpa using h)]
  rfl

/-- The number of bytes that it takes to have all of these places. -/
def extent (places : List Place) : Nat :=
  places.foldr (fun p needed ↦ max (p.offset + p.width) needed) 0

theorem overrun?_eq_none_iff (places : List Place) (n : Nat) :
    overrun? places n = none ↔ extent places ≤ n := by
  induction places with
  | nil => exact ⟨fun _ ↦ Nat.zero_le n, fun _ ↦ rfl⟩
  | cons p rest ih =>
    have hextent : extent (p :: rest) ≤ n ↔ p.Inside n ∧ extent rest ≤ n := Nat.max_le
    rw [hextent]
    by_cases hinside : p.Inside n
    · rw [overrun?_cons_of_inside hinside, ih]
      exact ⟨fun h ↦ ⟨hinside, h⟩, fun h ↦ h.2⟩
    · rw [overrun?_cons_of_not_inside hinside]
      exact ⟨fun h ↦ (nomatch h), fun h ↦ absurd h.1 hinside⟩

/-- What is wrong with `n` bytes of which the first `width` are taken as they are. -/
def shortage? (width n : Nat) : Option DecodeError :=
  if n < width then some (.tooShort width n) else none

theorem shortage?_eq_none_iff (width n : Nat) : shortage? width n = none ↔ width ≤ n := by
  unfold shortage?
  by_cases hshort : n < width
  · rw [if_pos hshort]
    exact ⟨fun h ↦ (nomatch h), fun h ↦ absurd h (Nat.not_le.mpr hshort)⟩
  · rw [if_neg hshort]
    exact ⟨fun _ ↦ Nat.not_lt.mp hshort, fun _ ↦ rfl⟩

/-! ## Decoders -/

variable {α β : Type}

/-- Decoders that fail by the number of bytes alone, and whose results are made of the bytes at the
places that belong to that number. -/
def Reads (fault? : Nat → Option DecodeError) (places : Nat → List Place)
    (decode : Bytes → Except DecodeError α) : Prop :=
  ∃ value : List Place → List Bytes → α, ∀ bytes, decode bytes =
    match fault? bytes.length with
    | some e => .error e
    | none => .ok (value (places bytes.length) ((places bytes.length).map (·.part bytes)))

namespace Reads

variable {fault? : Nat → Option DecodeError} {places : Nat → List Place}
  {decode : Bytes → Except DecodeError α}

theorem eq_error_iff (h : Reads fault? places decode) (bytes : Bytes) (e : DecodeError) :
    decode bytes = .error e ↔ fault? bytes.length = some e := by
  rcases h with ⟨value, hvalue⟩
  rw [hvalue bytes]
  cases fault? bytes.length <;> simp

theorem exists_ok_iff (h : Reads fault? places decode) (bytes : Bytes) :
    (∃ a, decode bytes = .ok a) ↔ fault? bytes.length = none := by
  rcases h with ⟨value, hvalue⟩
  rw [hvalue bytes]
  cases fault? bytes.length <;> simp

theorem ok_unique (h : Reads fault? places decode) {bytes bytes' : Bytes} {a a' : α}
    (ha : decode bytes = .ok a) (ha' : decode bytes' = .ok a')
    (hplaces : places bytes.length = places bytes'.length)
    (hparts : ∀ p ∈ places bytes.length, p.part bytes = p.part bytes') : a = a' := by
  have hnone := (h.exists_ok_iff bytes).mp ⟨a, ha⟩
  have hnone' := (h.exists_ok_iff bytes').mp ⟨a', ha'⟩
  rcases h with ⟨value, hvalue⟩
  rw [hvalue bytes, hnone] at ha
  rw [hvalue bytes', hnone', ← hplaces, ← List.map_congr_left hparts] at ha'
  exact Except.ok.inj (ha.symm.trans ha')

theorem done (a : α) : Reads (overrun? []) (fun _ ↦ []) fun _ ↦ (pure a : Except DecodeError α) :=
  ⟨fun _ _ ↦ a, fun _ ↦ rfl⟩

/-- A read in front of decoders that go on with what it gives. -/
theorem cons (p : Place) {read : Bytes → Except DecodeError β} {convert : Bytes → β}
    (hread : ∀ bytes, read bytes = (bytesAt bytes p.offset p.width).map convert)
    {rest : List Place} {next : β → Bytes → Except DecodeError α}
    (hnext : ∀ x, Reads (overrun? rest) (fun _ ↦ rest) (next x)) :
    Reads (overrun? (p :: rest)) (fun _ ↦ p :: rest) fun bytes ↦
      read bytes >>= fun x ↦ next x bytes := by
  choose value hvalue using hnext
  refine ⟨fun _ parts ↦ value (convert (parts.headD [])) rest parts.tail, fun bytes ↦ ?_⟩
  beta_reduce
  rw [hread, bytesAt_eq]
  by_cases hinside : p.Inside bytes.length
  · rw [if_pos hinside, overrun?_cons_of_inside hinside]
    exact hvalue _ bytes
  · rw [if_neg hinside, overrun?_cons_of_not_inside hinside]
    rfl

variable {rest : List Place}

theorem unsigned16 (offset : Nat) {next : UInt16 → Bytes → Except DecodeError α}
    (hnext : ∀ n, Reads (overrun? rest) (fun _ ↦ rest) (next n)) :
    Reads (overrun? (⟨offset, 2⟩ :: rest)) (fun _ ↦ ⟨offset, 2⟩ :: rest) fun bytes ↦
      Field.unsigned16 bytes offset >>= fun n ↦ next n bytes :=
  cons ⟨offset, 2⟩ (fun _ ↦ rfl) hnext

theorem signed16 (offset : Nat) {next : Int16 → Bytes → Except DecodeError α}
    (hnext : ∀ n, Reads (overrun? rest) (fun _ ↦ rest) (next n)) :
    Reads (overrun? (⟨offset, 2⟩ :: rest)) (fun _ ↦ ⟨offset, 2⟩ :: rest) fun bytes ↦
      Field.signed16 bytes offset >>= fun n ↦ next n bytes :=
  cons ⟨offset, 2⟩ (fun _ ↦ rfl) hnext

theorem unsigned24 (offset : Nat) {next : UInt32 → Bytes → Except DecodeError α}
    (hnext : ∀ n, Reads (overrun? rest) (fun _ ↦ rest) (next n)) :
    Reads (overrun? (⟨offset, 3⟩ :: rest)) (fun _ ↦ ⟨offset, 3⟩ :: rest) fun bytes ↦
      Field.unsigned24 bytes offset >>= fun n ↦ next n bytes :=
  cons ⟨offset, 3⟩ (fun _ ↦ rfl) hnext

/-- Three words that make a vector. -/
theorem vector (x y z : Nat) {finish : Int16 → Int16 → Int16 → α} :
    Reads (overrun? [⟨x, 2⟩, ⟨y, 2⟩, ⟨z, 2⟩]) (fun _ ↦ [⟨x, 2⟩, ⟨y, 2⟩, ⟨z, 2⟩]) fun bytes ↦
      Field.signed16 bytes x >>= fun a ↦ Field.signed16 bytes y >>= fun b ↦
        Field.signed16 bytes z >>= fun c ↦ pure (finish a b c) := by
  apply signed16
  intro a
  apply signed16
  intro b
  apply signed16
  intro c
  apply done

/-- Which of two decoders is taken may depend on the number of bytes, if the places tell them
apart. -/
theorem ite (limit : Nat) {first second : List Place} (hne : first ≠ second)
    {long short : Bytes → Except DecodeError α}
    (hlong : Reads (overrun? first) (fun _ ↦ first) long)
    (hshort : Reads (overrun? second) (fun _ ↦ second) short) :
    Reads (fun n ↦ overrun? (if limit < n then first else second) n)
      (fun n ↦ if limit < n then first else second)
      fun bytes ↦ if limit < bytes.length then long bytes else short bytes := by
  rcases hlong with ⟨value, hvalue⟩
  rcases hshort with ⟨value', hvalue'⟩
  refine ⟨fun places ↦ if places = first then value places else value' places, fun bytes ↦ ?_⟩
  beta_reduce
  by_cases hlength : limit < bytes.length
  · simp only [if_pos hlength, if_true]
    exact hvalue bytes
  · simp only [if_neg hlength, if_neg hne.symm]
    exact hvalue' bytes

/-- A decoder that looks at the first bytes only, and asks for them all at once. -/
theorem front (width : Nat) {decode : Bytes → Except DecodeError α} (other : α)
    (hshort : ∀ bytes, bytes.length < width →
      decode bytes = .error (.tooShort width bytes.length))
    (hlong : ∀ bytes, width ≤ bytes.length →
      ∃ a, decode bytes = .ok a ∧ decode (bytes.take width) = .ok a) :
    Reads (shortage? width) (fun _ ↦ [⟨0, width⟩]) decode := by
  refine ⟨fun _ parts ↦ (decode parts.flatten).toOption.getD other, fun bytes ↦ ?_⟩
  unfold shortage?
  by_cases hlength : bytes.length < width
  · rw [if_pos hlength]
    exact hshort bytes hlength
  · rw [if_neg hlength]
    rcases hlong bytes (Nat.not_lt.mp hlength) with ⟨a, ha, htake⟩
    have hflatten : [(⟨0, width⟩ : Place).part bytes].flatten = bytes.take width :=
      List.append_nil _
    rw [ha]
    change _ = Except.ok ((decode [(⟨0, width⟩ : Place).part bytes].flatten).toOption.getD other)
    rw [hflatten, htake]
    rfl

end Reads

end BleBeacon.Field
