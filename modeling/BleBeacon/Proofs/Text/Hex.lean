import Mathlib
import BleBeacon.Text.Hex

/-!
# Hexadecimal text read back

A text that reads as bytes has two ASCII digits for each of them, in either case, and the digits
that are written for those bytes are its own in lower case.  Texts that read as bytes can be joined,
and the joined text reads as the joined bytes.  Every even number of digits reads as bytes.
-/

namespace BleBeacon

/-- Errors that tell that a text is not the hexadecimal text of any value. -/
def DecodeError.IsInvalidHex : DecodeError → Prop
  | .oddHexLength _ | .notHex _ | .noAdvertisingData => True
  | _ => False

namespace Hex

theorem decode?_cons_cons (high low : Char) (cs : List Char) :
    decode? (high :: low :: cs) =
      (pair? high low).bind fun b ↦ (decode? cs).map (b :: ·) := by
  rw [decode?]
  cases pair? high low with
  | none => rfl
  | some b =>
    cases decode? cs with
    | none => rfl
    | some bytes => rfl

theorem decode?_append {cs ds : List Char} {xs ys : Bytes} (hcs : decode? cs = some xs)
    (hds : decode? ds = some ys) : decode? (cs ++ ds) = some (xs ++ ys) := by
  induction cs using decode?.induct generalizing xs with
  | case1 =>
    cases hcs
    exact hds
  | case2 => cases hcs
  | case3 high low cs ih =>
    rw [decode?_cons_cons] at hcs
    rcases Option.bind_eq_some_iff.mp hcs with ⟨b, hb, hcs⟩
    rcases Option.map_eq_some_iff.mp hcs with ⟨bytes, hbytes, rfl⟩
    rw [List.cons_append, List.cons_append, decode?_cons_cons, hb, ih hbytes]
    rfl

/-! ## Single digits -/

theorem toNat_lt_of_value? {c : Char} {n : Nat} (h : value? c = some n) : c.toNat < 128 := by
  have hle : ∀ d : Char, c ≤ d → c.toNat ≤ d.toNat := fun _ hd ↦
    UInt32.le_iff_toNat_le.mp (Char.le_def.mp hd)
  unfold value? at h
  split at h
  · rename_i hdigit
    exact Nat.lt_of_le_of_lt (hle _ hdigit.2) (by decide)
  · split at h
    · rename_i hlower
      exact Nat.lt_of_le_of_lt (hle _ hlower.2) (by decide)
    · split at h
      · rename_i hupper
        exact Nat.lt_of_le_of_lt (hle _ hupper.2) (by decide)
      · cases h

/-- A digit is a single byte of UTF-8, and its value is written as its lower case. -/
theorem digit_of_value? {c : Char} {n : Nat} (h : value? c = some n) :
    n < 16 ∧ c.utf8Size = 1 ∧ digit n = c.toLower := by
  -- Digits are ASCII, so the characters below 128 are all there is to look at.
  have hall : ∀ k : Fin 128, (value? (Char.ofNat k.val)).all fun n ↦
      n < 16 ∧ (Char.ofNat k.val).utf8Size = 1 ∧ digit n = (Char.ofNat k.val).toLower := by
    decide
  have hc := hall ⟨c.toNat, toNat_lt_of_value? h⟩
  rw [Char.ofNat_toNat, h, Option.all_some, decide_eq_true_eq] at hc
  exact hc

theorem byteDigits_of_pair? {high low : Char} {b : UInt8} (h : pair? high low = some b) :
    byteDigits b = [high.toLower, low.toLower] ∧ high.utf8Size = 1 ∧ low.utf8Size = 1 := by
  rcases Option.bind_eq_some_iff.mp h with ⟨x, hx, h⟩
  rcases Option.bind_eq_some_iff.mp h with ⟨y, hy, h⟩
  rcases digit_of_value? hx with ⟨hx16, hxsize, hxdigit⟩
  rcases digit_of_value? hy with ⟨hy16, hysize, hydigit⟩
  have hb : b.toNat = 16 * x + y := by
    rw [← Option.some.inj h, UInt8.toNat_ofNat']
    omega
  refine ⟨?_, hxsize, hysize⟩
  rw [byteDigits, hb, show (16 * x + y) / 16 = x by omega, show (16 * x + y) % 16 = y by omega,
    hxdigit, hydigit]

/-! ## Whole texts -/

/-- A text whose characters read as these bytes. -/
def Spells (s : String) (bytes : Bytes) : Prop := decode? s.toList = some bytes

instance (s : String) (bytes : Bytes) : Decidable (Spells s bytes) :=
  inferInstanceAs (Decidable (decode? s.toList = some bytes))

theorem Spells.append {s t : String} {xs ys : Bytes} (hs : Spells s xs) (ht : Spells t ys) :
    Spells (s ++ t) (xs ++ ys) := by
  unfold Spells
  rw [String.toList_append]
  exact decode?_append hs ht

theorem spells_encode (bytes : Bytes) : Spells (encode bytes) bytes := by
  unfold Spells
  rw [encode, String.toList_ofList]
  exact decode?_digits bytes

theorem digits_of_decode? {cs : List Char} {bytes : Bytes} (h : decode? cs = some bytes) :
    digits bytes = cs.map Char.toLower := by
  induction cs using decode?.induct generalizing bytes with
  | case1 =>
    cases h
    rfl
  | case2 => cases h
  | case3 high low cs ih =>
    rw [decode?_cons_cons] at h
    rcases Option.bind_eq_some_iff.mp h with ⟨b, hb, h⟩
    rcases Option.map_eq_some_iff.mp h with ⟨rest, hrest, rfl⟩
    have hdigits := (byteDigits_of_pair? hb).1
    have htail := ih hrest
    rw [digits] at htail ⊢
    rw [List.flatMap_cons, hdigits, htail]
    rfl

theorem Spells.encode_eq {s : String} {bytes : Bytes} (h : Spells s bytes) :
    encode bytes = s.toLower := by
  apply String.toList_inj.mp
  rw [encode, String.toList_ofList, digits_of_decode? h, String.toLower, String.toList_map]

/-- Digits take one byte of UTF-8 each. -/
theorem utf8Length_of_decode? {cs : List Char} {bytes : Bytes} (h : decode? cs = some bytes) :
    utf8Length cs = 2 * bytes.length := by
  induction cs using decode?.induct generalizing bytes with
  | case1 =>
    cases h
    rfl
  | case2 => cases h
  | case3 high low cs ih =>
    rw [decode?_cons_cons] at h
    rcases Option.bind_eq_some_iff.mp h with ⟨b, hb, h⟩
    rcases Option.map_eq_some_iff.mp h with ⟨rest, hrest, rfl⟩
    rcases byteDigits_of_pair? hb with ⟨-, hhigh, hlow⟩
    rw [utf8Length, utf8Length, hhigh, hlow, ih hrest, List.length_cons]
    omega

/-- The length that is looked at first is even for every text that reads as bytes. -/
theorem Spells.decode_eq {s : String} {bytes : Bytes} (h : Spells s bytes) :
    decode s = .ok bytes := by
  have hlength := utf8Length_of_decode? h
  unfold Spells at h
  unfold decode
  rw [if_neg (by omega), h]

/-! ## Texts of digits -/

/-- The digits of base sixteen, in either case. -/
def IsDigit (c : Char) : Prop :=
  ('0' ≤ c ∧ c ≤ '9') ∨ ('a' ≤ c ∧ c ≤ 'f') ∨ ('A' ≤ c ∧ c ≤ 'F')

instance : DecidablePred IsDigit := fun c ↦
  inferInstanceAs
    (Decidable (('0' ≤ c ∧ c ≤ '9') ∨ ('a' ≤ c ∧ c ≤ 'f') ∨ ('A' ≤ c ∧ c ≤ 'F')))

/-- Texts of `n` digits and nothing else. -/
def AllDigits (n : Nat) (s : String) : Prop := s.toList.length = n ∧ ∀ c ∈ s.toList, IsDigit c

instance (n : Nat) (s : String) : Decidable (AllDigits n s) :=
  inferInstanceAs (Decidable (s.toList.length = n ∧ ∀ c ∈ s.toList, IsDigit c))

theorem exists_value?_iff (c : Char) : (∃ n, value? c = some n) ↔ IsDigit c := by
  unfold value? IsDigit
  by_cases hdecimal : '0' ≤ c ∧ c ≤ '9'
  · simp [hdecimal]
  · by_cases hlower : 'a' ≤ c ∧ c ≤ 'f'
    · simp [hdecimal, hlower]
    · by_cases hupper : 'A' ≤ c ∧ c ≤ 'F'
      · simp [hdecimal, hlower, hupper]
      · simp [hdecimal, hlower, hupper]

theorem exists_pair?_iff (high low : Char) :
    (∃ b, pair? high low = some b) ↔ IsDigit high ∧ IsDigit low := by
  rw [← exists_value?_iff, ← exists_value?_iff]
  constructor
  · rintro ⟨b, hb⟩
    rcases Option.bind_eq_some_iff.mp hb with ⟨x, hx, hb⟩
    rcases Option.bind_eq_some_iff.mp hb with ⟨y, hy, -⟩
    exact ⟨⟨x, hx⟩, ⟨y, hy⟩⟩
  · rintro ⟨⟨x, hx⟩, ⟨y, hy⟩⟩
    unfold pair?
    rw [hx, hy]
    exact ⟨_, rfl⟩

theorem exists_decode?_iff (cs : List Char) :
    (∃ bytes, decode? cs = some bytes) ↔ cs.length % 2 = 0 ∧ ∀ c ∈ cs, IsDigit c := by
  induction cs using decode?.induct with
  | case1 => exact ⟨fun _ ↦ ⟨rfl, by simp⟩, fun _ ↦ ⟨[], rfl⟩⟩
  | case2 c =>
    constructor
    · rintro ⟨bytes, h⟩
      cases h
    · rintro ⟨hlength, -⟩
      cases hlength
  | case3 high low cs ih =>
    rw [List.forall_mem_cons, List.forall_mem_cons, ← and_assoc (a := IsDigit high),
      ← exists_pair?_iff, List.length_cons, List.length_cons, Nat.add_assoc, Nat.add_mod_right,
      and_left_comm, ← ih, decode?_cons_cons]
    constructor
    · rintro ⟨bytes, h⟩
      rcases Option.bind_eq_some_iff.mp h with ⟨b, hb, h⟩
      rcases Option.map_eq_some_iff.mp h with ⟨rest, hrest, -⟩
      exact ⟨⟨b, hb⟩, ⟨rest, hrest⟩⟩
    · rintro ⟨⟨b, hb⟩, ⟨rest, hrest⟩⟩
      exact ⟨b :: rest, by rw [hb, hrest]; rfl⟩

theorem length_digits (bytes : Bytes) : (digits bytes).length = 2 * bytes.length := by
  induction bytes with
  | nil => rfl
  | cons b rest ih =>
    rw [digits, List.flatMap_cons, List.length_append, ← digits, ih, List.length_cons]
    change 2 + 2 * rest.length = 2 * (rest.length + 1)
    omega

theorem digits_take (n : Nat) (bytes : Bytes) :
    digits (bytes.take n) = (digits bytes).take (2 * n) := by
  induction n generalizing bytes with
  | zero => rfl
  | succ n ih =>
    cases bytes with
    | nil => rfl
    | cons b rest =>
      change byteDigits b ++ digits (rest.take n) = (byteDigits b ++ digits rest).take (2 * n + 2)
      rw [ih]
      rfl

theorem digits_drop (n : Nat) (bytes : Bytes) :
    digits (bytes.drop n) = (digits bytes).drop (2 * n) := by
  induction n generalizing bytes with
  | zero => rfl
  | succ n ih =>
    cases bytes with
    | nil => rfl
    | cons b rest => exact ih rest

theorem length_of_decode? {cs : List Char} {bytes : Bytes} (h : decode? cs = some bytes) :
    cs.length = 2 * bytes.length := by
  rw [← length_digits, digits_of_decode? h, List.length_map]

/-- A text of twice as many digits as bytes, and only such a text, reads as bytes. -/
theorem allDigits_iff_exists_spells (n : Nat) (s : String) :
    AllDigits (2 * n) s ↔ ∃ bytes, Spells s bytes ∧ bytes.length = n := by
  unfold AllDigits Spells
  constructor
  · rintro ⟨hlength, hdigits⟩
    rcases (exists_decode?_iff s.toList).mpr ⟨by omega, hdigits⟩ with ⟨bytes, hbytes⟩
    have htwice := length_of_decode? hbytes
    exact ⟨bytes, hbytes, by omega⟩
  · rintro ⟨bytes, hbytes, rfl⟩
    exact ⟨length_of_decode? hbytes, ((exists_decode?_iff s.toList).mp ⟨bytes, hbytes⟩).2⟩

theorem Spells.allDigits {s : String} {bytes : Bytes} (h : Spells s bytes) :
    AllDigits (2 * bytes.length) s :=
  (allDigits_iff_exists_spells bytes.length s).mpr ⟨bytes, h, rfl⟩

theorem spells_clean_iff {value : String} {bytes : Bytes} :
    Spells (clean value) bytes ↔ decode? (cleanChars value.toList) = some bytes := by
  unfold Spells
  rw [clean, String.toList_ofList]

/-! ## Texts that cannot be read -/

theorem decode_eq_ok_iff {s : String} {bytes : Bytes} : decode s = .ok bytes ↔ Spells s bytes := by
  refine ⟨fun h ↦ ?_, Spells.decode_eq⟩
  unfold decode at h
  unfold Spells
  dsimp only at h
  split at h
  · cases h
  · split at h
    · rename_i hread
      cases h
      exact hread
    · cases h

theorem isInvalidHex_of_decode {s : String} {e : DecodeError} (h : decode s = .error e) :
    e.IsInvalidHex := by
  unfold decode at h
  dsimp only at h
  split at h
  · cases h
    trivial
  · split at h
    · cases h
    · cases h
      trivial

end Hex

end BleBeacon
