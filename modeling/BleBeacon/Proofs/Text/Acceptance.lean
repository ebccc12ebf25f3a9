import Mathlib
import BleBeacon.Proofs.Text.Spelling

/-!
# Which texts are read

A text without separators is read exactly if it is the lower case text of some bytes, in either
case.  A value is read exactly if what stands between the blanks around it and behind its markers
has nothing but digits and separators, and the digits are those of some bytes.  Of the characters
of a text none is read past: whatever else there is refuses it.
-/

namespace BleBeacon

/-! ## Between blanks -/

/-- A part of a text with all blanks around it taken away. -/
def Trimmed (cs core : List Char) : Prop :=
  ∃ front back, cs = front ++ core ++ back ∧ Blank front ∧ Blank back ∧
    (∀ c ∈ core.head?, isBlank c = false) ∧ ∀ c ∈ core.getLast?, isBlank c = false

theorem isBlank_of_mem_head?_trimLeft {cs : List Char} :
    ∀ c ∈ (trimLeft cs).head?, isBlank c = false := by
  intro c hc
  have hfirst := List.head?_dropWhile_not isBlank cs
  rw [← trimLeft, hc] at hfirst
  exact hfirst

theorem isBlank_of_mem_getLast?_trimRight {cs : List Char} :
    ∀ c ∈ (trimRight cs).getLast?, isBlank c = false := by
  rw [trimRight, ← trimLeft, List.getLast?_reverse]
  exact isBlank_of_mem_head?_trimLeft

theorem isBlank_of_mem_head?_trim {cs : List Char} :
    ∀ c ∈ (trim cs).head?, isBlank c = false := by
  obtain ⟨back, -, hcs⟩ := exists_trimRight_append (trimLeft cs)
  intro c hc
  have hleft : c ∈ (trimLeft cs).head? := by
    rw [hcs]
    exact List.mem_head?_append_of_mem_head? hc
  exact isBlank_of_mem_head?_trimLeft c hleft

theorem trimmed_iff {cs core : List Char} : Trimmed cs core ↔ core = trim cs := by
  constructor
  · rintro ⟨front, back, rfl, hfront, hback, hhead, hlast⟩
    exact (trim_append hfront hback hhead hlast).symm
  · rintro rfl
    obtain ⟨front, back, hfront, hback, hcs⟩ := exists_append_trim cs
    exact ⟨front, back, hcs, hfront, hback, isBlank_of_mem_head?_trim,
      isBlank_of_mem_getLast?_trimRight⟩

namespace Hex

/-! ## Behind markers -/

/-- The part of a text behind all markers that it starts with. -/
def Unmarked (cs rest : List Char) : Prop :=
  ¬ ['0', 'x'] <+: rest ∧ ∃ n, cs = (List.replicate n ['0', 'x']).flatten ++ rest

theorem unmarked_iff {cs rest : List Char} : Unmarked cs rest ↔ rest = dropMarkers cs := by
  constructor
  · rintro ⟨hrest, n, rfl⟩
    induction n with
    | zero => exact (dropMarkers_of_ne fun more h ↦ hrest ⟨more, h.symm⟩).symm
    | succ n ih => exact ih
  · rintro rfl
    induction cs using dropMarkers.induct with
    | case1 cs ih =>
      obtain ⟨hrest, n, hcs⟩ := ih
      refine ⟨hrest, n + 1, ?_⟩
      show '0' :: 'x' :: cs = '0' :: 'x' :: ((List.replicate n ['0', 'x']).flatten ++ dropMarkers cs)
      rw [← hcs]
    | case2 cs hcs =>
      rw [dropMarkers_of_ne hcs]
      refine ⟨?_, 0, rfl⟩
      rintro ⟨more, h⟩
      exact hcs more h.symm

/-! ## Digits -/

/-- A text is read as the bytes whose digits it has, in either case. -/
theorem decode?_eq_some_iff {cs : List Char} {bytes : Bytes} :
    decode? cs = some bytes ↔ cs.map Char.toLower = digits bytes := by
  constructor
  · intro h
    exact (digits_of_decode? h).symm
  · intro h
    induction bytes generalizing cs with
    | nil =>
      rw [List.map_eq_nil_iff.mp h]
      rfl
    | cons b bytes ih =>
      obtain ⟨high, more, rfl, hhigh, hmore⟩ := List.map_eq_cons_iff.mp h
      obtain ⟨low, rest, rfl, hlow, hrest⟩ := List.map_eq_cons_iff.mp hmore
      have hpair : pair? high low = some b := pair?_eq_some_iff.mpr (by rw [hhigh, hlow]; rfl)
      rw [decode?_cons_cons, hpair, ih hrest]
      rfl

theorem filter_isDigit_eq_unspaced {cs : List Char}
    (h : ∀ c ∈ cs, IsDigit c ∨ isBlank c ∨ c = ':') : cs.filter (IsDigit ·) = unspaced cs := by
  apply List.filter_congr
  intro c hc
  by_cases hdigit : IsDigit c
  · obtain ⟨n, hn⟩ := (exists_value?_iff c).mpr hdigit
    rw [not_isSeparator_of_value? hn, decide_eq_true hdigit]
    rfl
  · have hseparator : isSeparator c := by
      rcases (h c hc).resolve_left hdigit with hblank | rfl
      · exact isSeparator_of_isBlank hblank
      · rfl
    rw [hseparator, decide_eq_false hdigit]
    rfl

theorem decode?_unspaced_eq_some_iff {cs : List Char} {bytes : Bytes} :
    decode? (unspaced cs) = some bytes ↔
      (∀ c ∈ cs, IsDigit c ∨ isBlank c ∨ c = ':') ∧
        (cs.filter (IsDigit ·)).map Char.toLower = digits bytes := by
  constructor
  · intro h
    have hdigits := ((exists_decode?_iff _).mp ⟨bytes, h⟩).2
    have hall : ∀ c ∈ cs, IsDigit c ∨ isBlank c ∨ c = ':' := by
      intro c hc
      by_cases hseparator : isSeparator c
      · right
        rwa [isSeparator, Bool.or_eq_true, beq_iff_eq] at hseparator
      · left
        exact hdigits c (List.mem_filter.mpr ⟨hc, by simpa using hseparator⟩)
    rw [filter_isDigit_eq_unspaced hall]
    exact ⟨hall, decode?_eq_some_iff.mp h⟩
  · rintro ⟨hall, hdigits⟩
    rw [filter_isDigit_eq_unspaced hall] at hdigits
    exact decode?_eq_some_iff.mpr hdigits

/-! ## Whole texts -/

/-- Texts in which the digits of these bytes are written, and nothing else that has a meaning. -/
def IsWritten (cs : List Char) (bytes : Bytes) : Prop :=
  ∃ core rest, Trimmed cs core ∧ Unmarked core rest ∧
    (∀ c ∈ rest, IsDigit c ∨ isBlank c ∨ c = ':') ∧
    (rest.filter (IsDigit ·)).map Char.toLower = digits bytes

variable {text : String} {bytes : Bytes}

theorem decodeValue_eq_ok_iff : decodeValue text = .ok bytes ↔ IsWritten text.toList bytes := by
  unfold decodeValue IsWritten
  rw [decode_eq_ok_iff, spells_clean_iff]
  simp only [trimmed_iff, unmarked_iff, exists_and_left, exists_eq_left]
  exact decode?_unspaced_eq_some_iff

theorem spells_iff_toLower : Spells text bytes ↔ encode bytes = text.toLower := by
  unfold Spells
  rw [decode?_eq_some_iff, encode, String.toLower, ← String.toList_inj, String.toList_ofList,
    String.toList_map, eq_comm]

theorem spaced_digits (bytes : Bytes) : Spaced (digits bytes) bytes := by
  induction bytes with
  | nil => exact .nil
  | cons b bytes ih =>
    have hdigits := (byteDigits_of_pair? (pair?_byteDigits b)).1
    have hbetween : ∀ c ∈ ([] : List Char), isSeparator c := List.forall_mem_nil _
    exact .byte hdigits hbetween ih

theorem decodeValue_encode (bytes : Bytes) : decodeValue (encode bytes) = .ok bytes := by
  apply decode_eq_ok_iff.mpr
  apply spells_clean_iff_isValue.mpr
  refine ⟨[], digits bytes, ?_, List.forall_mem_nil _, .plain (spaced_digits bytes)⟩
  rw [encode, String.toList_ofList]
  rfl

theorem decodeValue_eq_error_iff : (∃ e, e.IsInvalidHex ∧ decodeValue text = .error e) ↔
    ¬ ∃ bytes, IsWritten text.toList bytes := by
  constructor
  · rintro ⟨e, -, he⟩ ⟨bytes, hbytes⟩
    rw [decodeValue_eq_ok_iff.mpr hbytes] at he
    cases he
  · intro hnot
    cases hread : decodeValue text with
    | error e => exact ⟨e, isInvalidHex_of_decode hread, rfl⟩
    | ok bytes => exact absurd ⟨bytes, decodeValue_eq_ok_iff.mp hread⟩ hnot

/-- A value is read exactly if its digits are those of some bytes and all else in it are blanks
around it, markers in front, and blanks and colons behind those; it is refused as no hexadecimal
text otherwise.  A text that is not cleaned has to be of digits alone, two for each byte; the text
that is written for these bytes is its own in lower case, and is always read as them. -/
theorem decodeValue_and_decode_eq_ok_iff (text : String) (bytes : Bytes) :
    (decodeValue text = .ok bytes ↔ IsWritten text.toList bytes) ∧
    ((∃ e, e.IsInvalidHex ∧ decodeValue text = .error e) ↔
      ¬ ∃ bytes, IsWritten text.toList bytes) ∧
    (decode text = .ok bytes ↔
      AllDigits (2 * bytes.length) text ∧ encode bytes = text.toLower) ∧
    decode (encode bytes) = .ok bytes := by
  refine ⟨decodeValue_eq_ok_iff, decodeValue_eq_error_iff, ?_, (spells_encode bytes).decode_eq⟩
  rw [decode_eq_ok_iff, ← spells_iff_toLower]
  exact ⟨fun h ↦ ⟨h.allDigits, h⟩, fun h ↦ h.2⟩

example : decodeValue "\u2003 0x0xA:b 0C " = .ok [0xAB, 0x0C] := by decide +kernel

end Hex

end BleBeacon
