import Mathlib
import BleBeacon.AdStructure

/-!
# Walking laid out structures

Structures whose bytes are laid end to end are walked one by one, each at its place, and the walk
goes on with whatever follows them: nothing, padding, or a structure that was cut off.
-/

namespace BleBeacon

/-- Structures that follow one another from `offset` on, each short enough for its length byte. -/
def AdStructure.LaidFrom : Nat → List AdStructure → Prop
  | _, [] => True
  | offset, s :: rest =>
    s.offset = offset ∧ s.data.length ≤ 254 ∧ LaidFrom (offset + s.serialize.length) rest

theorem AdStructure.length_serialize (s : AdStructure) :
    s.serialize.length = s.data.length + 2 := rfl

namespace AdWalk

/-! ## One step -/

theorem next?_serialize (s : AdStructure) (tail : Bytes) (hlength : s.data.length ≤ 254) :
    (AdWalk.mk s.offset (s.serialize ++ tail)).next? =
      some (.ok s, ⟨s.offset + s.serialize.length, tail⟩) := by
  have hbyte : (UInt8.ofNat (s.data.length + 1)).toNat = s.data.length + 1 := by
    rw [UInt8.toNat_ofNat']
    omega
  have hne : UInt8.ofNat (s.data.length + 1) ≠ 0 := by
    intro hzero
    rw [hzero] at hbyte
    exact absurd hbyte (by simp)
  have htake : (s.type :: (s.data ++ tail)).take (s.data.length + 1) = s.type :: s.data := by
    rw [List.take_succ_cons, List.take_left]
  have hdrop : (s.type :: (s.data ++ tail)).drop (s.data.length + 1) = tail := by
    rw [List.drop_succ_cons, List.drop_left]
  have henough : ¬ (s.type :: (s.data ++ tail)).length < s.data.length + 1 := by
    rw [List.length_cons, List.length_append]
    omega
  simp only [next?, AdStructure.serialize, List.cons_append, hbyte, htake, hdrop]
  rw [if_neg hne, if_neg henough]
  rfl

theorem next?_truncated (n : Nat) (length : UInt8) (tail : Bytes)
    (hshort : tail.length < length.toNat) :
    (AdWalk.mk n (length :: tail)).next? =
      some (.error (.truncatedStructure n length.toNat tail.length), ⟨n, []⟩) := by
  have hne : length ≠ 0 := by
    intro hzero
    rw [hzero] at hshort
    exact absurd hshort (Nat.not_lt_zero _)
  simp only [next?]
  rw [if_neg hne, if_pos hshort]

/-! ## The whole walk -/

theorem items_eq_cons {w w' : AdWalk} {item : Except DecodeError AdStructure}
    (h : w.next? = some (item, w')) : w.items = item :: w'.items := by
  rw [items]
  split
  · rename_i hnone
    rw [h] at hnone
    cases hnone
  · rename_i hsome
    rw [h] at hsome
    cases hsome
    rfl

theorem items_eq_nil {w : AdWalk} (h : w.next? = none) : w.items = [] := by
  rw [items]
  split
  · rfl
  · rename_i hsome
    rw [h] at hsome
    cases hsome

theorem items_nil (n : Nat) : (AdWalk.mk n []).items = [] :=
  items_eq_nil rfl

theorem items_zero (n : Nat) (tail : Bytes) : (AdWalk.mk n (0 :: tail)).items = [] :=
  items_eq_nil (by simp [next?])

theorem items_truncated (n : Nat) (length : UInt8) (tail : Bytes)
    (hshort : tail.length < length.toNat) :
    (AdWalk.mk n (length :: tail)).items =
      [.error (.truncatedStructure n length.toNat tail.length)] := by
  rw [items_eq_cons (next?_truncated n length tail hshort), items_nil]

theorem items_serialize (n : Nat) (structures : List AdStructure) (tail : Bytes)
    (hlaid : AdStructure.LaidFrom n structures) :
    (AdWalk.mk n (structures.flatMap AdStructure.serialize ++ tail)).items =
      structures.map .ok
        ++ (AdWalk.mk (n + (structures.flatMap AdStructure.serialize).length) tail).items := by
  induction structures generalizing n with
  | nil => rfl
  | cons s rest ih =>
    rcases hlaid with ⟨rfl, hlength, hrest⟩
    rw [List.flatMap_cons, List.append_assoc, items_eq_cons (next?_serialize s _ hlength),
      ih _ hrest, List.length_append, Nat.add_assoc]
    rfl

end AdWalk

/-- Structures at the start of a payload come first among its items. -/
theorem adItems_serialize (structures : List AdStructure) (tail : Bytes)
    (hlaid : AdStructure.LaidFrom 0 structures) :
    adItems (structures.flatMap AdStructure.serialize ++ tail) =
      structures.map .ok
        ++ (AdWalk.mk (structures.flatMap AdStructure.serialize).length tail).items := by
  have hitems := AdWalk.items_serialize 0 structures tail hlaid
  rwa [Nat.zero_add] at hitems

end BleBeacon
