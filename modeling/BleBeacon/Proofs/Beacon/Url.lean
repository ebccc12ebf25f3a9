import Mathlib
import BleBeacon.Beacon.Url

/-!
# Compressed URLs read back

Expanding what compression wrote gives the same text as expanding the bytes before it, because
every ending expands to itself.  So a text comes back unchanged exactly when none of its own bytes
is taken for a code and none of its characters takes more than one byte.
-/

namespace BleBeacon.Url

/-! ## Single bytes -/

/-- Bytes from 14 on have no ending and stand for themselves. -/
theorem expandByte_literal {b : UInt8} (h : 14 ≤ b.toNat) :
    expandByte b = [Char.ofNat b.toNat] := by
  have hnone : endings[b.toNat]? = none := by
    rw [List.getElem?_eq_none_iff]
    exact h
  rw [expandByte, hnone]

theorem expandByte_ending {b : UInt8} {e : String} (h : endings[b.toNat]? = some e) :
    expandByte b = e.toList := by
  rw [expandByte, h]

theorem one_lt_length_expandByte {b : UInt8} (h : b.toNat < 14) : 1 < (expandByte b).length := by
  have hall : ∀ i : Fin 14, 1 < (expandByte (UInt8.ofNat i.val)).length := by decide
  have hb := hall ⟨b.toNat, h⟩
  rwa [UInt8.ofNat_toNat] at hb

theorem length_expandByte_pos (b : UInt8) : 0 < (expandByte b).length := by
  by_cases h : b.toNat < 14
  · have hlong := one_lt_length_expandByte h
    omega
  · rw [expandByte_literal (by omega), List.length_singleton]
    omega

theorem expand_cons (b : UInt8) (bytes : Bytes) :
    expand (b :: bytes) = expandByte b ++ expand bytes :=
  rfl

theorem expand_append (xs ys : Bytes) : expand (xs ++ ys) = expand xs ++ expand ys :=
  List.flatMap_append

theorem length_le_length_expand (bytes : Bytes) : bytes.length ≤ (expand bytes).length := by
  induction bytes with
  | nil => exact Nat.le_refl _
  | cons b bytes ih =>
    have hpos := length_expandByte_pos b
    rw [expand_cons, List.length_append, List.length_cons]
    omega

/-! ## Compression and expansion -/

theorem endingFrom?_eq_some {code : Nat} {bytes rest : Bytes} {list : List String} {b : UInt8}
    (h : endingFrom? code bytes list = some (b, rest)) :
    ∃ i e, list[i]? = some e ∧ b = UInt8.ofNat (code + i) ∧ bytes = utf8Bytes e.toList ++ rest := by
  induction list generalizing code with
  | nil => cases h
  | cons e more ih =>
    unfold endingFrom? at h
    split at h
    · rename_i hafter
      cases h
      exact ⟨0, e, rfl, rfl, Bytes.eq_append_of_after? hafter⟩
    · rcases ih h with ⟨i, e', hget, hcode, hbytes⟩
      exact ⟨i + 1, e', hget, by rw [hcode, Nat.add_right_comm, Nat.add_assoc], hbytes⟩

theorem ending?_eq_some {bytes rest : Bytes} {b : UInt8} (h : ending? bytes = some (b, rest)) :
    ∃ e, endings[b.toNat]? = some e ∧ bytes = utf8Bytes e.toList ++ rest := by
  rcases endingFrom?_eq_some h with ⟨i, e, hget, rfl, hbytes⟩
  have hi : i < 14 := (List.getElem?_eq_some_iff.mp hget).1
  have hcode : (UInt8.ofNat (0 + i)).toNat = i := by
    rw [UInt8.toNat_ofNat']
    omega
  exact ⟨e, by rw [hcode]; exact hget, hbytes⟩

/-- The bytes of an ending are literals, so they expand to the ending. -/
theorem expand_utf8Bytes_ending {e : String} (h : e ∈ endings) :
    expand (utf8Bytes e.toList) = e.toList := by
  have hall : ∀ e ∈ endings, expand (utf8Bytes e.toList) = e.toList := by decide
  exact hall e h

theorem expand_compress (bytes : Bytes) : expand (compress bytes) = expand bytes := by
  induction bytes using compress.induct with
  | case1 => rw [compress]
  | case2 b rest code rest' hending ih =>
    rcases ending?_eq_some hending with ⟨e, hget, hbytes⟩
    have hmem : e ∈ endings := List.mem_of_getElem? hget
    rw [compress]
    split
    · rename_i code' tail hsome
      rw [hending] at hsome
      cases hsome
      rw [expand_cons, ih, hbytes, expand_append, expand_utf8Bytes_ending hmem,
        expandByte_ending hget]
    · rename_i hnone
      rw [hending] at hnone
      cases hnone
  | case3 b rest hending ih =>
    rw [compress]
    split
    · rename_i hsome
      rw [hending] at hsome
      cases hsome
    · rw [expand_cons, expand_cons, ih]

/-! ## Characters that come back -/

/-- Characters of one byte of UTF-8 that is no code. -/
def Literal (c : Char) : Prop := 0x0E ≤ c.toNat ∧ c.toNat ≤ 0x7F

instance (c : Char) : Decidable (Literal c) :=
  inferInstanceAs (Decidable (0x0E ≤ c.toNat ∧ c.toNat ≤ 0x7F))

theorem utf8Size_eq_one_iff_toNat_le (c : Char) : c.utf8Size = 1 ↔ c.toNat ≤ 0x7F := by
  rw [Char.utf8Size_eq_one_iff, UInt32.le_iff_toNat_le]
  rfl

theorem utf8EncodeChar_of_le {c : Char} (h : c.toNat ≤ 0x7F) :
    String.utf8EncodeChar c = [UInt8.ofNat c.toNat] := by
  rw [String.utf8EncodeChar_eq_singleton ((utf8Size_eq_one_iff_toNat_le c).mpr h)]
  rfl

theorem one_lt_length_utf8EncodeChar {c : Char} (h : 0x7F < c.toNat) :
    1 < (String.utf8EncodeChar c).length := by
  have hpos := c.utf8Size_pos
  have hne : c.utf8Size ≠ 1 := fun hone ↦
    Nat.not_le.mpr h ((utf8Size_eq_one_iff_toNat_le c).mp hone)
  rw [String.length_utf8EncodeChar]
  omega

theorem expand_utf8EncodeChar_literal {c : Char} (h : Literal c) :
    expand (String.utf8EncodeChar c) = [c] := by
  rcases h with ⟨hlow, hhigh⟩
  have hbyte : (UInt8.ofNat c.toNat).toNat = c.toNat := by
    rw [UInt8.toNat_ofNat']
    omega
  rw [utf8EncodeChar_of_le hhigh, expand_cons, expandByte_literal (by omega), hbyte,
    Char.ofNat_toNat]
  rfl

/-- All other characters grow: a code becomes an ending, and each byte of a longer character becomes
a character of its own. -/
theorem one_lt_length_expand_utf8EncodeChar {c : Char} (h : ¬ Literal c) :
    1 < (expand (String.utf8EncodeChar c)).length := by
  by_cases hhigh : c.toNat ≤ 0x7F
  · have hcode : c.toNat < 14 := by
      unfold Literal at h
      omega
    have hbyte : (UInt8.ofNat c.toNat).toNat < 14 := by
      rw [UInt8.toNat_ofNat']
      omega
    rw [utf8EncodeChar_of_le hhigh, expand_cons, List.length_append]
    have hlong := one_lt_length_expandByte hbyte
    omega
  · have hbytes := one_lt_length_utf8EncodeChar (Nat.not_le.mp hhigh)
    have hle := length_le_length_expand (String.utf8EncodeChar c)
    omega

theorem expand_utf8Bytes_cons (c : Char) (cs : List Char) :
    expand (utf8Bytes (c :: cs)) = expand (String.utf8EncodeChar c) ++ expand (utf8Bytes cs) := by
  rw [utf8Bytes, List.flatMap_cons, expand_append]
  rfl

theorem length_le_length_expand_utf8Bytes (cs : List Char) :
    cs.length ≤ (expand (utf8Bytes cs)).length := by
  induction cs with
  | nil => exact Nat.le_refl _
  | cons c cs ih =>
    have hpos : 0 < (expand (String.utf8EncodeChar c)).length := by
      by_cases h : Literal c
      · rw [expand_utf8EncodeChar_literal h, List.length_singleton]
        omega
      · have hlong := one_lt_length_expand_utf8EncodeChar h
        omega
    rw [expand_utf8Bytes_cons, List.length_append, List.length_cons]
    omega

theorem expand_utf8Bytes_eq_self_iff (cs : List Char) :
    expand (utf8Bytes cs) = cs ↔ ∀ c ∈ cs, Literal c := by
  induction cs with
  | nil => exact ⟨fun _ c hc ↦ absurd hc List.not_mem_nil, fun _ ↦ rfl⟩
  | cons c cs ih =>
    rw [expand_utf8Bytes_cons, List.forall_mem_cons, ← ih]
    constructor
    · intro heq
      -- No character shrinks, so one that grows could not be made up for by those behind it.
      by_cases hc : Literal c
      · rw [expand_utf8EncodeChar_literal hc] at heq
        exact ⟨hc, (List.cons.inj heq).2⟩
      · have hlong := one_lt_length_expand_utf8EncodeChar hc
        have hrest := length_le_length_expand_utf8Bytes cs
        have hlength := congrArg List.length heq
        rw [List.length_append, List.length_cons] at hlength
        omega
    · rintro ⟨hc, heq⟩
      rw [expand_utf8EncodeChar_literal hc, heq]
      rfl

theorem decode_encode_eq_self_iff (body : String) :
    decode (encode body) = body ↔ ∀ c ∈ body.toList, Literal c := by
  rw [← expand_utf8Bytes_eq_self_iff, ← expand_compress, ← String.toList_inj, decode,
    String.toList_ofList, encode]

end BleBeacon.Url
