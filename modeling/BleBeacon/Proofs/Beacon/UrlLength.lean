import Mathlib
import BleBeacon.Proofs.Beacon.Url

/-!
# Compression is as short as any spelling

Compression takes an ending as soon as it starts one.  This never costs a byte: an ending has its
only dot in front, so that no ending is missed that starts within it, and the only ending that goes
on behind another one has a slash more.  Hence a sender who spelled a URL in another way has not
used fewer bytes.
-/

namespace BleBeacon.Url

theorem compress_of_ending? {bytes rest : Bytes} {code : UInt8}
    (h : ending? bytes = some (code, rest)) : compress bytes = code :: compress rest := by
  cases bytes with
  | nil => exact absurd (length_lt_of_ending? h) (Nat.not_lt_zero _)
  | cons b tail =>
    rw [compress]
    split
    · rename_i hsome
      rw [h] at hsome
      cases hsome
      rfl
    · rename_i hnone
      rw [h] at hnone
      cases hnone

theorem compress_cons_of_ending?_eq_none {b : UInt8} {rest : Bytes}
    (h : ending? (b :: rest) = none) : compress (b :: rest) = b :: compress rest := by
  rw [compress]
  split
  · rename_i hsome
    rw [h] at hsome
    cases hsome
  · rfl

/-! ## Where endings start -/

/-- The byte that endings start with. -/
def dot : UInt8 := 0x2E

/-- Where an ending starts stands a dot, and the rest of the ending has none. -/
theorem eq_tail_append_of_ending? {b code : UInt8} {bytes rest : Bytes}
    (h : ending? (b :: bytes) = some (code, rest)) :
    b = dot ∧ ∃ e ∈ endings, bytes = (utf8Bytes e.toList).tail ++ rest ∧
      ∀ x ∈ (utf8Bytes e.toList).tail, x ≠ dot := by
  have hall : ∀ e ∈ endings, (utf8Bytes e.toList).head? = some dot ∧
      ∀ b ∈ (utf8Bytes e.toList).tail, b ≠ dot := by
    simp [endings, utf8Bytes, String.utf8EncodeChar, dot]
  obtain ⟨e, hget, hbytes⟩ := ending?_eq_some h
  have hmem : e ∈ endings := List.mem_of_getElem? hget
  obtain ⟨hhead, hdot⟩ := hall e hmem
  rw [List.eq_cons_of_mem_head? hhead, List.cons_append] at hbytes
  obtain ⟨hb, hrest⟩ := List.cons.inj hbytes
  exact ⟨hb, e, hmem, hrest, hdot⟩

theorem ending?_cons_of_ne_dot {b : UInt8} (h : b ≠ dot) (rest : Bytes) :
    ending? (b :: rest) = none := by
  by_contra hsome
  obtain ⟨⟨code, behind⟩, hending⟩ := Option.ne_none_iff_exists'.mp hsome
  exact h (eq_tail_append_of_ending? hending).1

theorem compress_append_of_no_dot {front : Bytes} (h : ∀ b ∈ front, b ≠ dot) (bytes : Bytes) :
    compress (front ++ bytes) = front ++ compress bytes := by
  induction front with
  | nil => rfl
  | cons b front ih =>
    obtain ⟨hb, hfront⟩ := List.forall_mem_cons.mp h
    rw [List.cons_append, compress_cons_of_ending?_eq_none (ending?_cons_of_ne_dot hb _),
      ih hfront, List.cons_append]

/-- The byte of a slash. -/
def slash : UInt8 := 0x2F

theorem ending?_append_of_slash {e : String} (h : e ∈ endings.take 7) (bytes : Bytes) :
    ∃ code, ending? (utf8Bytes e.toList ++ bytes) = some (code, bytes) := by
  rw [endings] at h
  simp only [List.take_succ_cons, List.take_zero, List.mem_cons, List.not_mem_nil, or_false] at h
  rcases h with rfl | rfl | rfl | rfl | rfl | rfl | rfl <;> exact ⟨_, rfl⟩

/-- An ending without a slash is taken with the slash behind it, if there is one. -/
theorem ending?_append_of_host {e : String} (h : e ∈ endings.drop 7) (bytes : Bytes) :
    ∃ withSlash without, ending? (utf8Bytes e.toList ++ bytes) =
      match Bytes.after? [slash] bytes with
      | some rest => some (withSlash, rest)
      | none => some (without, bytes) := by
  rw [endings] at h
  simp only [List.drop_succ_cons, List.drop_zero, List.mem_cons, List.not_mem_nil, or_false] at h
  rcases h with rfl | rfl | rfl | rfl | rfl | rfl | rfl <;> exact ⟨_, _, rfl⟩

theorem ending?_append {e : String} (h : e ∈ endings) (bytes : Bytes) :
    ∃ code rest, ending? (utf8Bytes e.toList ++ bytes) = some (code, rest) ∧
      (bytes = rest ∨ bytes = slash :: rest) := by
  rw [← List.take_append_drop 7 endings, List.mem_append] at h
  rcases h with hslash | hhost
  · obtain ⟨code, hending⟩ := ending?_append_of_slash hslash bytes
    exact ⟨code, bytes, hending, .inl rfl⟩
  · obtain ⟨withSlash, without, hending⟩ := ending?_append_of_host hhost bytes
    cases hafter : Bytes.after? [slash] bytes with
    | none =>
      rw [hafter] at hending
      exact ⟨without, bytes, hending, .inl rfl⟩
    | some rest =>
      rw [hafter] at hending
      exact ⟨withSlash, rest, hending, .inr (Bytes.eq_append_of_after? hafter)⟩

/-! ## Lengths -/

theorem length_compress_cons_le (b : UInt8) (bytes : Bytes) :
    (compress (b :: bytes)).length ≤ (compress bytes).length + 1 := by
  cases hending : ending? (b :: bytes) with
  | none => rw [compress_cons_of_ending?_eq_none hending, List.length_cons]
  | some found =>
    obtain ⟨code, rest⟩ := found
    -- The rest of the ending has no dot, so it stays as it is without its own dot.
    obtain ⟨-, e, -, hrest, hdot⟩ := eq_tail_append_of_ending? hending
    rw [compress_of_ending? hending, hrest, compress_append_of_no_dot hdot, List.length_cons,
      List.length_append]
    omega

theorem length_compress_ending_le {e : String} (h : e ∈ endings) (bytes : Bytes) :
    (compress (utf8Bytes e.toList ++ bytes)).length ≤ (compress bytes).length + 1 := by
  obtain ⟨code, rest, hending, hrest⟩ := ending?_append h bytes
  rw [compress_of_ending? hending, List.length_cons]
  rcases hrest with rfl | rfl
  · exact Nat.le_refl _
  · rw [compress_cons_of_ending?_eq_none (ending?_cons_of_ne_dot (by decide) rest),
      List.length_cons]
    omega

theorem utf8Bytes_append (cs ds : List Char) :
    utf8Bytes (cs ++ ds) = utf8Bytes cs ++ utf8Bytes ds :=
  List.flatMap_append

theorem utf8Bytes_expandByte_literal {b : UInt8} (hlow : 14 ≤ b.toNat) (hhigh : b < 0x80) :
    utf8Bytes (expandByte b) = [b] := by
  have hlt : b.toNat < 128 := UInt8.lt_iff_toNat_lt.mp hhigh
  have hchar : (Char.ofNat b.toNat).toNat = b.toNat := by
    rw [Char.toNat_ofNat, if_pos (.inl (by omega))]
  rw [expandByte_literal hlow, utf8Bytes, List.flatMap_singleton, utf8EncodeChar_of_le (by omega),
    hchar, UInt8.ofNat_toNat]

/-- What is read from some bytes is sent in no more bytes. -/
theorem length_encode_decode_le {sent : Bytes} (h : ∀ b ∈ sent, b < 0x80) :
    (encode (decode sent)).length ≤ sent.length := by
  rw [encode, decode, String.toList_ofList]
  induction sent with
  | nil => rw [show utf8Bytes (expand []) = [] from rfl, compress]
  | cons b sent ih =>
    obtain ⟨hb, hsent⟩ := List.forall_mem_cons.mp h
    have hrest := ih hsent
    rw [expand_cons, utf8Bytes_append, List.length_cons]
    by_cases hcode : b.toNat < 14
    · have hget : endings[b.toNat]? = some endings[b.toNat] := List.getElem?_eq_getElem hcode
      rw [expandByte_ending hget]
      have hle := length_compress_ending_le (List.getElem_mem hcode) (utf8Bytes (expand sent))
      omega
    · have hle := length_compress_cons_le b (utf8Bytes (expand sent))
      rw [utf8Bytes_expandByte_literal (Nat.not_lt.mp hcode) hb, List.singleton_append]
      omega

theorem literal_of_mem_expandByte {b : UInt8} (h : b < 0x80) {c : Char} (hc : c ∈ expandByte b) :
    Literal c := by
  by_cases hcode : b.toNat < 14
  · have hget : endings[b.toNat]? = some endings[b.toNat] := List.getElem?_eq_getElem hcode
    have hself := expand_utf8Bytes_ending (List.getElem_mem hcode)
    rw [expandByte_ending hget] at hc
    exact (expand_utf8Bytes_eq_self_iff _).mp hself c hc
  · have hlt : b.toNat < 128 := UInt8.lt_iff_toNat_lt.mp h
    rw [expandByte_literal (Nat.not_lt.mp hcode), List.mem_singleton] at hc
    rw [hc, Literal, Char.toNat_ofNat, if_pos (.inl (by omega))]
    omega

theorem literal_of_mem_decode {sent : Bytes} (h : ∀ b ∈ sent, b < 0x80) :
    ∀ c ∈ (decode sent).toList, Literal c := by
  rw [decode, String.toList_ofList]
  intro c hc
  obtain ⟨b, hb, hmem⟩ := List.mem_flatMap.mp hc
  exact literal_of_mem_expandByte (h b hb) hmem

/-! ## Shortest spellings -/

/-- Bytes that stand for a text, and are not more than any others that do. -/
structure IsShortest (body : String) (sent : Bytes) : Prop where
  decodes : decode sent = body
  least : ∀ other, decode other = body → sent.length ≤ other.length

/-- A text of literals is spelled with ASCII only: other bytes stand for characters above it. -/
theorem lt_of_literal_decode {sent : Bytes} (h : ∀ c ∈ (decode sent).toList, Literal c) :
    ∀ b ∈ sent, b < 0x80 := by
  intro b hb
  by_contra hhigh
  have hle : 128 ≤ b.toNat := Nat.not_lt.mp fun hlt ↦ hhigh (UInt8.lt_iff_toNat_lt.mpr hlt)
  have hlt : b.toNat < 256 := b.toNat_lt
  have hmem : Char.ofNat b.toNat ∈ (decode sent).toList := by
    rw [decode, String.toList_ofList, expand]
    refine List.mem_flatMap.mpr ⟨b, hb, ?_⟩
    rw [expandByte_literal (by omega)]
    exact List.mem_singleton_self _
  have hliteral := (h _ hmem).2
  rw [Char.toNat_ofNat, if_pos (.inl (by omega))] at hliteral
  omega

theorem isShortest_encode {body : String} (h : ∀ c ∈ body.toList, Literal c) :
    IsShortest body (encode body) where
  decodes := (decode_encode_eq_self_iff body).mpr h
  least := by
    rintro other rfl
    exact length_encode_decode_le (lt_of_literal_decode h)

/-- Compression keeps exactly the texts of literals, and of all ways to spell such a text it takes
one of the shortest.  So what was read from ASCII is sent on as the same text and never grows. -/
theorem encode_lossless_and_shortest :
    (∀ body, decode (encode body) = body ↔ ∀ c ∈ body.toList, Literal c) ∧
    (∀ body, (∀ c ∈ body.toList, Literal c) → IsShortest body (encode body)) ∧
    ∀ sent, (∀ b ∈ sent, b < 0x80) →
      decode (encode (decode sent)) = decode sent ∧
        (encode (decode sent)).length ≤ sent.length := by
  refine ⟨decode_encode_eq_self_iff, fun body hbody ↦ isShortest_encode hbody, ?_⟩
  intro sent hsent
  have hshortest := isShortest_encode (literal_of_mem_decode hsent)
  exact ⟨hshortest.decodes, hshortest.least sent rfl⟩

/-- A sender that spells the slash of the first host apart uses a byte more than it takes. -/
theorem encode_lossless_and_shortest_slashedHost :
    (∀ c ∈ "a.com/.info".toList, Literal c) ∧ IsShortest "a.com/.info" (encode "a.com/.info") ∧
    (∀ b ∈ ([0x61, 0x07, 0x2F, 0x0B] : Bytes), b < 0x80) ∧
    decode [0x61, 0x07, 0x2F, 0x0B] = "a.com/.info" ∧ (encode "a.com/.info").length ≤ 4 := by
  have hbody : ∀ c ∈ "a.com/.info".toList, Literal c := by simp [Literal]
  have hsent : ∀ b ∈ ([0x61, 0x07, 0x2F, 0x0B] : Bytes), b < 0x80 := by decide +kernel
  have hdecode : decode [0x61, 0x07, 0x2F, 0x0B] = "a.com/.info" := rfl
  have hle := (encode_lossless_and_shortest.2.2 _ hsent).2
  rw [hdecode] at hle
  exact ⟨hbody, encode_lossless_and_shortest.2.1 _ hbody, hsent, hdecode, hle⟩

end BleBeacon.Url
