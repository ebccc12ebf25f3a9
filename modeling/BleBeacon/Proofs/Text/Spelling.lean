import Mathlib
import BleBeacon.Proofs.Text.Blanks
import BleBeacon.Proofs.Text.Hex

/-!
# Values as people write them

The bytes of a value may be written with blanks and colons anywhere between their digits, and with
the marker of hexadecimal numbers in front.  Exactly such texts read as those bytes when they are
cleaned.  A text that is cut off somewhere reads as the bytes in front of the cut, unless the cut is
inside a byte.
-/

namespace BleBeacon.Hex

/-! ## Digits with separators -/

/-- Texts of bytes: the digits of each of them, in either case, and separators anywhere. -/
inductive Spaced : List Char → Bytes → Prop where
  | nil : Spaced [] []
  | separator {c : Char} {cs : List Char} {bytes : Bytes} (hc : isSeparator c)
      (h : Spaced cs bytes) : Spaced (c :: cs) bytes
  | byte {high low : Char} {between cs : List Char} {b : UInt8} {bytes : Bytes}
      (hdigits : byteDigits b = [high.toLower, low.toLower])
      (hbetween : ∀ c ∈ between, isSeparator c) (h : Spaced cs bytes) :
      Spaced (high :: (between ++ low :: cs)) (b :: bytes)

theorem isSeparator_of_isBlank {c : Char} (h : isBlank c) : isSeparator c := by
  rw [isSeparator, h, Bool.true_or]

theorem not_isSeparator_of_value? {c : Char} {n : Nat} (h : value? c = some n) :
    isSeparator c = false := by
  have hall : ∀ k : Fin 128, (value? (Char.ofNat k.val)).isSome →
      isSeparator (Char.ofNat k.val) = false := by decide
  have hc := hall ⟨c.toNat, toNat_lt_of_value? h⟩
  rw [Char.ofNat_toNat] at hc
  exact hc (by rw [h]; rfl)

theorem value?_toLower (c : Char) : value? c.toLower = value? c := by
  by_cases hupper : c.isUpper
  · have hall : ∀ k : Fin 128, value? (Char.ofNat k.val).toLower = value? (Char.ofNat k.val) := by
      decide
    have hc : c.toNat ≤ 90 := by
      rw [Char.isUpper, decide_eq_true_eq] at hupper
      exact UInt32.le_iff_toNat_le.mp hupper.2
    have hlower := hall ⟨c.toNat, by omega⟩
    rwa [Char.ofNat_toNat] at hlower
  · rw [Char.toLower_eq_of_not_isUpper hupper]

theorem pair?_eq_some_iff {high low : Char} {b : UInt8} :
    pair? high low = some b ↔ byteDigits b = [high.toLower, low.toLower] := by
  refine ⟨fun h ↦ (byteDigits_of_pair? h).1, fun h ↦ ?_⟩
  obtain ⟨hhigh, hlow⟩ : digit (b.toNat / 16) = high.toLower ∧ digit (b.toNat % 16) = low.toLower :=
    ⟨(List.cons.inj h).1, (List.cons.inj (List.cons.inj h).2).1⟩
  have hread := pair?_byteDigits b
  rw [hhigh, hlow] at hread
  unfold pair? at hread ⊢
  rwa [value?_toLower, value?_toLower] at hread

theorem not_isSeparator_of_pair? {high low : Char} {b : UInt8} (h : pair? high low = some b) :
    isSeparator high = false ∧ isSeparator low = false := by
  rcases Option.bind_eq_some_iff.mp h with ⟨x, hx, h⟩
  rcases Option.bind_eq_some_iff.mp h with ⟨y, hy, -⟩
  exact ⟨not_isSeparator_of_value? hx, not_isSeparator_of_value? hy⟩

/-- The characters of a text that are no separators. -/
def unspaced (cs : List Char) : List Char := cs.filter (!isSeparator ·)

theorem unspaced_append (xs ys : List Char) : unspaced (xs ++ ys) = unspaced xs ++ unspaced ys :=
  List.filter_append ..

theorem unspaced_cons_of_not {c : Char} (h : isSeparator c = false) (cs : List Char) :
    unspaced (c :: cs) = c :: unspaced cs :=
  List.filter_cons_of_pos (by rw [h]; rfl)

theorem unspaced_eq_nil {cs : List Char} (h : ∀ c ∈ cs, isSeparator c) : unspaced cs = [] :=
  List.filter_eq_nil_iff.mpr fun c hc ↦ by rw [h c hc]; decide

theorem unspaced_of_blank {cs : List Char} (h : Blank cs) : unspaced cs = [] :=
  unspaced_eq_nil fun c hc ↦ isSeparator_of_isBlank (h c hc)

theorem Spaced.decode?_unspaced {cs : List Char} {bytes : Bytes} (h : Spaced cs bytes) :
    decode? (unspaced cs) = some bytes := by
  induction h with
  | nil => rfl
  | separator hc h ih =>
    rw [unspaced, List.filter_cons_of_neg (by rw [hc]; decide)]
    exact ih
  | byte hdigits hbetween h ih =>
    have hpair := pair?_eq_some_iff.mpr hdigits
    obtain ⟨hhigh, hlow⟩ := not_isSeparator_of_pair? hpair
    rw [unspaced_cons_of_not hhigh, unspaced_append, unspaced_eq_nil hbetween, List.nil_append,
      unspaced_cons_of_not hlow, decode?_cons_cons, hpair, ih]
    rfl

theorem Spaced.append_separators {front cs : List Char} {bytes : Bytes}
    (hfront : ∀ c ∈ front, isSeparator c) (h : Spaced cs bytes) : Spaced (front ++ cs) bytes := by
  induction front with
  | nil => exact h
  | cons c front ih =>
    obtain ⟨hc, hmore⟩ := List.forall_mem_cons.mp hfront
    exact .separator hc (ih hmore)

/-- By induction on the bytes: each of them takes two characters that are no separators, and those
between are. -/
theorem spaced_of_decode?_unspaced {cs : List Char} {bytes : Bytes}
    (h : decode? (unspaced cs) = some bytes) : Spaced cs bytes := by
  have hseparators : ∀ xs : List Char, (∀ c ∈ xs, ¬ (!isSeparator c) = true) →
      ∀ c ∈ xs, isSeparator c := fun xs hxs c hc ↦ by simpa using hxs c hc
  induction bytes generalizing cs with
  | nil =>
    have hnil : unspaced cs = [] := List.eq_nil_of_length_eq_zero (length_of_decode? h)
    have hall := hseparators cs (List.filter_eq_nil_iff.mp hnil)
    rw [← List.append_nil cs]
    exact Spaced.nil.append_separators hall
  | cons b bytes ih =>
    match hchars : unspaced cs with
    | [] | [_] =>
      rw [hchars] at h
      cases h
    | high :: low :: ds =>
      rw [hchars, decode?_cons_cons] at h
      rcases Option.bind_eq_some_iff.mp h with ⟨b', hpair, h⟩
      rcases Option.map_eq_some_iff.mp h with ⟨bytes', hrest, hbytes⟩
      cases hbytes
      obtain ⟨front, behind, rfl, hfront, -, hbehind⟩ := List.filter_eq_cons_iff.mp hchars
      obtain ⟨between, rest, rfl, hbetween, -, hds⟩ := List.filter_eq_cons_iff.mp hbehind
      have hspaced : Spaced rest bytes := ih (by rw [unspaced, hds]; exact hrest)
      refine Spaced.append_separators (hseparators front hfront) ?_
      exact .byte (pair?_eq_some_iff.mp hpair) (hseparators between hbetween) hspaced

theorem spaced_iff {cs : List Char} {bytes : Bytes} :
    Spaced cs bytes ↔ decode? (unspaced cs) = some bytes :=
  ⟨Spaced.decode?_unspaced, spaced_of_decode?_unspaced⟩

/-! ## Markers in front -/

/-- Texts of bytes that may be marked as hexadecimal. -/
inductive Marked : List Char → Bytes → Prop where
  | plain {cs : List Char} {bytes : Bytes} (h : Spaced cs bytes) : Marked cs bytes
  | marker {cs : List Char} {bytes : Bytes} (h : Marked cs bytes) : Marked ('0' :: 'x' :: cs) bytes

/-- Texts of a value: its bytes, perhaps marked, behind blanks. -/
def IsValue (cs : List Char) (bytes : Bytes) : Prop :=
  ∃ blanks marked, cs = blanks ++ marked ∧ Blank blanks ∧ Marked marked bytes

theorem dropMarkers_of_ne {cs : List Char} (h : ∀ rest, cs ≠ '0' :: 'x' :: rest) :
    dropMarkers cs = cs := by
  unfold dropMarkers
  split
  · exact absurd rfl (h _)
  · rfl

/-- A marker is not spelled by anything. -/
theorem Spaced.ne_marker {cs : List Char} {bytes : Bytes} (h : Spaced cs bytes)
    (rest : List Char) : cs ≠ '0' :: 'x' :: rest := by
  rintro rfl
  have hread := h.decode?_unspaced
  rw [unspaced_cons_of_not (by decide), unspaced_cons_of_not (by decide), decode?_cons_cons,
    show pair? '0' 'x' = none from rfl] at hread
  cases hread

theorem dropMarkers_append {xs ys : List Char} (h : 'x' ∉ ys) :
    dropMarkers (xs ++ ys) = dropMarkers xs ++ ys := by
  induction xs using dropMarkers.induct with
  | case1 rest ih => exact ih
  | case2 xs hxs =>
    rw [dropMarkers_of_ne hxs]
    refine dropMarkers_of_ne fun rest hrest ↦ ?_
    match xs with
    | [] => exact h (by rw [List.nil_append] at hrest; simp [hrest])
    | [_] => exact h (by rw [List.singleton_append] at hrest; simp [(List.cons.inj hrest).2])
    | c :: d :: xs =>
      obtain ⟨hc, hrest⟩ := List.cons.inj hrest
      obtain ⟨hd, -⟩ := List.cons.inj hrest
      exact hxs xs (by rw [hc, hd])

theorem not_mem_of_blank {cs : List Char} (h : Blank cs) : 'x' ∉ cs := fun hx ↦
  absurd (h 'x' hx) (by decide)

/-- Blanks at the end are no part of a marker, so it makes no difference when they are dropped. -/
theorem cleanChars_eq (cs : List Char) : cleanChars cs = unspaced (dropMarkers (trimLeft cs)) := by
  obtain ⟨back, hback, hcs⟩ := exists_trimRight_append (trimLeft cs)
  calc cleanChars cs = unspaced (dropMarkers (trimRight (trimLeft cs))) := rfl
    _ = unspaced (dropMarkers (trimRight (trimLeft cs)) ++ back) := by
      rw [unspaced_append, unspaced_of_blank hback, List.append_nil]
    _ = unspaced (dropMarkers (trimLeft cs)) := by
      rw [← dropMarkers_append (not_mem_of_blank hback), ← hcs]

theorem Spaced.of_trimLeft {cs : List Char} {bytes : Bytes} (h : Spaced cs bytes) :
    Spaced (trimLeft cs) bytes := by
  obtain ⟨front, hfront, hcs⟩ := exists_append_trimLeft cs
  rw [hcs, spaced_iff, unspaced_append, unspaced_of_blank hfront] at h
  exact spaced_iff.mpr h

theorem Marked.of_trimLeft {cs : List Char} {bytes : Bytes} (h : Marked cs bytes) :
    Marked (trimLeft cs) bytes := by
  cases h with
  | plain h => exact .plain h.of_trimLeft
  | marker h => exact .marker h

theorem IsValue.marked_trimLeft {cs : List Char} {bytes : Bytes} (h : IsValue cs bytes) :
    Marked (trimLeft cs) bytes := by
  obtain ⟨blanks, marked, rfl, hblanks, hmarked⟩ := h
  rw [trimLeft_append hblanks]
  exact hmarked.of_trimLeft

theorem Marked.spaced_dropMarkers {cs : List Char} {bytes : Bytes} (h : Marked cs bytes) :
    Spaced (dropMarkers cs) bytes := by
  induction h with
  | plain h =>
    rw [dropMarkers_of_ne h.ne_marker]
    exact h
  | marker h ih => exact ih

theorem marked_of_spaced_dropMarkers {cs : List Char} {bytes : Bytes}
    (h : Spaced (dropMarkers cs) bytes) : Marked cs bytes := by
  induction cs using dropMarkers.induct with
  | case1 rest ih => exact .marker (ih h)
  | case2 cs hcs =>
    rw [dropMarkers_of_ne hcs] at h
    exact .plain h

/-- What is cleaned reads as bytes exactly if it was a text of these bytes. -/
theorem spells_clean_iff_isValue {value : String} {bytes : Bytes} :
    Spells (clean value) bytes ↔ IsValue value.toList bytes := by
  rw [spells_clean_iff, cleanChars_eq, ← spaced_iff]
  constructor
  · intro h
    obtain ⟨front, hfront, hvalue⟩ := exists_append_trimLeft value.toList
    exact ⟨front, _, hvalue, hfront, marked_of_spaced_dropMarkers h⟩
  · exact fun h ↦ h.marked_trimLeft.spaced_dropMarkers

/-! ## Texts that are cut off -/

/-- Only inside of a marker a cut leaves something else than what would have been there. -/
theorem Marked.unspaced_dropMarkers_of_isPrefix {cs front : List Char} {bytes : Bytes}
    (h : Marked cs bytes) (hfront : front <+: cs) :
    unspaced (dropMarkers front) <+: unspaced (dropMarkers cs) ∨
      unspaced (dropMarkers front) = ['0'] := by
  induction h generalizing front with
  | plain h =>
    have hne : ∀ rest, front ≠ '0' :: 'x' :: rest := by
      rintro rest rfl
      obtain ⟨more, rfl⟩ := hfront
      exact h.ne_marker (rest ++ more) rfl
    rw [dropMarkers_of_ne hne, dropMarkers_of_ne h.ne_marker]
    exact .inl (hfront.filter _)
  | marker h ih =>
    match front with
    | [] => exact .inl List.nil_prefix
    | [c] =>
      rw [(List.cons_prefix_cons.mp hfront).1]
      exact .inr rfl
    | c :: d :: front =>
      obtain ⟨hc, hrest⟩ := List.cons_prefix_cons.mp hfront
      obtain ⟨hd, hrest⟩ := List.cons_prefix_cons.mp hrest
      have hmore := ih hrest
      rw [hc, hd]
      exact hmore

theorem decode?_take {cs : List Char} {bytes : Bytes} (h : decode? cs = some bytes) (n : Nat) :
    decode? (cs.take (2 * n)) = some (bytes.take n) := by
  induction n generalizing cs bytes with
  | zero => rfl
  | succ n ih =>
    match cs with
    | [] =>
      cases h
      rfl
    | [_] => cases h
    | high :: low :: cs =>
      rw [decode?_cons_cons] at h
      rcases Option.bind_eq_some_iff.mp h with ⟨b, hpair, h⟩
      rcases Option.map_eq_some_iff.mp h with ⟨rest, hrest, rfl⟩
      change decode? (high :: low :: cs.take (2 * n)) = some (b :: rest.take n)
      rw [decode?_cons_cons, hpair, ih hrest]
      rfl

theorem utf8Length_of_isDigit {cs : List Char} (h : ∀ c ∈ cs, IsDigit c) :
    utf8Length cs = cs.length := by
  induction cs with
  | nil => rfl
  | cons c cs ih =>
    obtain ⟨hc, hcs⟩ := List.forall_mem_cons.mp h
    obtain ⟨n, hn⟩ := (exists_value?_iff c).mpr hc
    rw [utf8Length, (digit_of_value? hn).2.1, ih hcs, List.length_cons, Nat.add_comm]

theorem decode_of_odd {cs : List Char} (h : ∀ c ∈ cs, IsDigit c) (hodd : cs.length % 2 = 1) :
    decode (String.ofList cs) = .error (.oddHexLength cs.length) := by
  unfold decode
  rw [String.toList_ofList, utf8Length_of_isDigit h]
  exact if_pos hodd

/-- What is left of a text of bytes that is cut off: the bytes in front of the cut, unless it leaves
an odd number of digits. -/
theorem IsValue.decode_cleanChars_of_isPrefix {cs front : List Char} {bytes : Bytes}
    (h : IsValue cs bytes) (hfront : front <+: cs) :
    decode (String.ofList (cleanChars front)) =
        (if (cleanChars front).length % 2 = 1 then .error (.oddHexLength (cleanChars front).length)
        else .ok (bytes.take ((cleanChars front).length / 2))) ∧
      ((cleanChars front).length % 2 = 0 → (cleanChars front).length ≤ 2 * bytes.length) := by
  have hread := h.marked_trimLeft.spaced_dropMarkers.decode?_unspaced
  have hdigits := ((exists_decode?_iff _).mp ⟨bytes, hread⟩).2
  rw [cleanChars_eq]
  have hcases := h.marked_trimLeft.unspaced_dropMarkers_of_isPrefix (trimLeft_isPrefix hfront)
  rcases hcases with hcut | hzero
  · have hdigits' := fun c hc ↦ hdigits c (hcut.subset hc)
    have hlength := hcut.length_le
    rw [length_of_decode? hread] at hlength
    refine ⟨?_, fun _ ↦ hlength⟩
    split_ifs with hodd
    · exact decode_of_odd hdigits' hodd
    · have htake := decode?_take hread ((unspaced (dropMarkers (trimLeft front))).length / 2)
      rw [Nat.mul_div_cancel' (Nat.dvd_of_mod_eq_zero (by omega)),
        ← List.prefix_iff_eq_take.mp hcut] at htake
      refine Spells.decode_eq ?_
      unfold Spells
      rw [String.toList_ofList]
      exact htake
  · have hdigit : ∀ c ∈ ['0'], IsDigit c := by simp [IsDigit]
    rw [hzero]
    exact ⟨(decode_of_odd hdigit rfl).trans (if_pos rfl).symm, fun heven ↦ (nomatch heven)⟩

/-- What stands behind a place without an `x` is cleaned by itself. -/
theorem cleanChars_append {xs ys : List Char} (h : 'x' ∉ ys) :
    cleanChars (xs ++ ys) = cleanChars xs ++ unspaced ys := by
  rw [cleanChars_eq, cleanChars_eq]
  by_cases hxs : Blank xs
  · obtain ⟨blanks, hblanks, hys⟩ := exists_append_trimLeft ys
    have hnone : 'x' ∉ trimLeft ys := fun hx ↦ h (hys ▸ List.mem_append_right _ hx)
    have hleft : unspaced (trimLeft ys) = unspaced ys := by
      rw [hys, unspaced_append, unspaced_of_blank hblanks, List.nil_append, ← hys]
    have hempty : trimLeft xs = [] := List.dropWhile_eq_nil_iff.mpr hxs
    rw [trimLeft_append hxs, hempty, ← hleft]
    exact congrArg unspaced (@dropMarkers_append [] _ hnone)
  · rw [trimLeft_append_of_not_blank hxs, dropMarkers_append h, unspaced_append]

end BleBeacon.Hex
