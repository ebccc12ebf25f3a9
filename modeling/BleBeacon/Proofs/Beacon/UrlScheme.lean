import Mathlib
import BleBeacon.Proofs.Beacon.AdvertisingData
import BleBeacon.Proofs.Beacon.UrlLength

/-!
# Which URLs are refused for their length

The scheme of a URL is chosen before its length is known: `http://www.` comes before `http://`.  To
leave out `www.` can only be wrong when an ending starts with its dot, and costs a byte only for the
longest of the endings, `.info/`.  So a URL is refused although a frame could carry it exactly when
its host is `www.info` and thirteen bytes follow the slash.
-/

namespace BleBeacon

namespace UrlScheme

theorem detect?_eq_some_iff {url : String} {scheme : UrlScheme} :
    detect? url = some scheme ↔ scheme.text.toList <+: url.toList ∧
      ∃ before behind, known = before ++ scheme :: behind ∧
        ∀ s ∈ before, ¬ s.text.toList <+: url.toList := by
  simp only [detect?, List.find?_eq_some_iff_append, List.isPrefixOf_iff_prefix,
    Bool.not_eq_true', ← Bool.not_eq_true]

/-- A URL starts with the text of the scheme that is detected in it. -/
theorem exists_body_of_detect? {url : String} {scheme : UrlScheme} (h : detect? url = some scheme) :
    scheme ∈ known ∧ ∃ body, scheme.text ++ body = url ∧
      EddystoneFrame.ofUrl url = .url scheme body := by
  obtain ⟨rest, hrest⟩ := (detect?_eq_some_iff.mp h).1
  refine ⟨List.mem_of_find?_eq_some h, String.ofList rest, ?_, ?_⟩
  · rw [← String.toList_inj, String.toList_append, String.toList_ofList, hrest]
  · rw [EddystoneFrame.ofUrl, h]
    simp only [← hrest, List.drop_left]

/-- Of the schemes that a URL starts with, the first in the order of codes is detected. -/
theorem code_le_of_detect? {url : String} {scheme other : UrlScheme}
    (h : detect? url = some scheme) (hother : other ∈ known)
    (hfront : other.text.toList <+: url.toList) : scheme.code.toNat ≤ other.code.toNat := by
  have hsorted : known.Pairwise fun s t ↦ s.code.toNat ≤ t.code.toNat := by decide
  obtain ⟨-, before, behind, hknown, hbefore⟩ := detect?_eq_some_iff.mp h
  rw [hknown] at hother hsorted
  rcases List.mem_append.mp hother with hmem | hmem
  · exact absurd hfront (hbefore other hmem)
  · rcases List.mem_cons.mp hmem with rfl | hbehind
    · exact Nat.le_refl _
    · exact List.rel_of_pairwise_cons (List.pairwise_append.mp hsorted).2.1 hbehind

/-- A URL that starts with another scheme than the one that is detected goes on with `www.`. -/
theorem eq_or_text_eq_of_detect? {url : String} {scheme other : UrlScheme}
    (h : detect? url = some scheme) (hother : other ∈ known)
    (hfront : other.text.toList <+: url.toList) :
    other = scheme ∨ scheme.text = other.text ++ "www." := by
  have hnested : ∀ s ∈ known, ∀ t ∈ known, s.text.toList <+: t.text.toList →
      s = t ∨ t.text = s.text ++ "www." ∧ t.code.toNat < s.code.toNat := by
    simp [known, text, code]
  have hscheme : scheme ∈ known := List.mem_of_find?_eq_some h
  rcases List.prefix_or_prefix_of_prefix hfront (detect?_eq_some_iff.mp h).1 with hle | hle
  · exact (hnested other hother scheme hscheme hle).imp_right And.left
  · rcases hnested scheme hscheme other hother hle with rfl | ⟨-, hlt⟩
    · exact .inl rfl
    · exact absurd (code_le_of_detect? h hother hfront) (Nat.not_le.mpr hlt)

/-- The schemes with `www.` are detected wherever they stand. -/
theorem detect?_of_www {url : String} {scheme : UrlScheme} (h : scheme ∈ [httpWww, .httpsWww])
    (hfront : scheme.text.toList <+: url.toList) : detect? url = some scheme := by
  have hwww : ∀ s ∈ [httpWww, .httpsWww], s ∈ known ∧ ∀ t ∈ known, t.text ≠ s.text ++ "www." := by
    simp [known, text]
  obtain ⟨hknown, hlongest⟩ := hwww scheme h
  cases hdetect : detect? url with
  | none =>
    have hnone := List.find?_eq_none.mp hdetect scheme hknown
    exact absurd (List.isPrefixOf_iff_prefix.mpr hfront) hnone
  | some found =>
    have hfound : found ∈ known := List.mem_of_find?_eq_some hdetect
    rcases eq_or_text_eq_of_detect? hdetect hknown hfront with rfl | hlonger
    · rfl
    · exact absurd hlonger (hlongest found hfound)

end UrlScheme

namespace Url

/-! ## What `www.` costs -/

theorem encode_append_of_no_dot {front : String} (h : ∀ b ∈ utf8Bytes front.toList, b ≠ dot)
    (s : String) : encode (front ++ s) = utf8Bytes front.toList ++ encode s := by
  rw [encode, String.toList_append, utf8Bytes_append, compress_append_of_no_dot h, encode]

theorem length_encode_info (s : String) :
    (encode ("info/" ++ s)).length = (encode s).length + 5 := by
  have hfront : ∀ b ∈ utf8Bytes "info/".toList, b ≠ dot := by
    simp [utf8Bytes, String.utf8EncodeChar, dot]
  rw [encode_append_of_no_dot hfront, List.length_append, Nat.add_comm]
  rfl

theorem length_encode_www (s : String) :
    (encode ("www." ++ s)).length = (compress (dot :: utf8Bytes s.toList)).length + 3 := by
  have hsplit : "www." ++ s = "www" ++ ("." ++ s) := by
    rw [← String.append_assoc]
    rfl
  have hfront : ∀ b ∈ utf8Bytes "www".toList, b ≠ dot := by
    simp [utf8Bytes, String.utf8EncodeChar, dot]
  rw [hsplit, encode_append_of_no_dot hfront, List.length_append, Nat.add_comm, encode,
    String.toList_append, utf8Bytes_append]
  rfl

theorem length_encode_www_info (s : String) :
    (encode ("www." ++ ("info/" ++ s))).length = (encode s).length + 4 := by
  have hending : ending? (dot :: utf8Bytes ("info/" ++ s).toList) =
      some (4, utf8Bytes s.toList) := by
    rw [String.toList_append, utf8Bytes_append]
    rfl
  rw [length_encode_www, compress_of_ending? hending, List.length_cons, encode]

/-- Of an ending nothing is left to compress without its dot, and only one has more than four bytes
behind it. -/
theorem length_compress_le_dot (bytes : Bytes) :
    (compress bytes).length ≤ (compress (dot :: bytes)).length + 3 ∨
      ∃ rest, bytes = utf8Bytes "info/".toList ++ rest := by
  cases hending : ending? (dot :: bytes) with
  | none =>
    rw [compress_cons_of_ending?_eq_none hending, List.length_cons]
    exact .inl (by omega)
  | some found =>
    obtain ⟨code, rest⟩ := found
    obtain ⟨-, e, hmem, hrest, hdot⟩ := eq_tail_append_of_ending? hending
    have hshort : ∀ e ∈ endings, (utf8Bytes e.toList).tail.length ≤ 4 ∨
        (utf8Bytes e.toList).tail = utf8Bytes "info/".toList := by
      simp [endings, utf8Bytes, String.utf8EncodeChar]
    rcases hshort e hmem with hle | hinfo
    · rw [compress_of_ending? hending, hrest, compress_append_of_no_dot hdot, List.length_append,
        List.length_cons]
      exact .inl (by omega)
    · exact .inr ⟨rest, by rw [hrest, hinfo]⟩

theorem length_encode_le_www {body : String} (hbody : ∀ c ∈ body.toList, Literal c) :
    (encode body).length ≤ (encode ("www." ++ body)).length ∨ ∃ rest, body = "info/" ++ rest := by
  rw [length_encode_www]
  refine (length_compress_le_dot (utf8Bytes body.toList)).imp_right ?_
  rintro ⟨rest, hrest⟩
  -- The bytes of literals say which characters they come from.
  refine ⟨decode rest, ?_⟩
  rw [← String.toList_inj, String.toList_append,
    show (decode rest).toList = expand rest from String.toList_ofList,
    ← (expand_utf8Bytes_eq_self_iff _).mpr hbody, hrest, expand_append]
  rfl

/-! ## Refusals -/

/-- URLs that a frame can carry: at most 17 bytes say what stands behind a scheme with a code. -/
def Carried (url : String) : Prop :=
  ∃ scheme ∈ UrlScheme.known, ∃ sent : Bytes, sent.length ≤ 17 ∧ scheme.text ++ decode sent = url

/-- URLs of the host `www.info` that fit into a frame with `www.`, but not without it. -/
def Shadowed (url : String) : Prop :=
  ∃ scheme ∈ [UrlScheme.httpWww, .httpsWww], ∃ rest : String,
    scheme.text ++ ("info/" ++ rest) = url ∧ (encode rest).length = 13

theorem prefix_toList_of_append_eq {front rest url : String} (h : front ++ rest = url) :
    front.toList <+: url.toList :=
  ⟨rest.toList, by rw [← String.toList_append, h]⟩

theorem literal_of_append_eq {front rest url : String} (h : front ++ rest = url)
    (hurl : ∀ c ∈ url.toList, Literal c) : ∀ c ∈ rest.toList, Literal c := by
  intro c hc
  apply hurl
  rw [← h, String.toList_append]
  exact List.mem_append_right _ hc

/-- Whoever carries a URL that does not fit behind its scheme has spelled the dot of `www.` with an
ending, and gained a byte. -/
theorem shadowed_of_carried {url body : String} {scheme : UrlScheme}
    (hurl : ∀ c ∈ url.toList, Literal c) (hdetect : UrlScheme.detect? url = some scheme)
    (hbody : scheme.text ++ body = url) (hlong : 17 < (encode body).length) (h : Carried url) :
    Shadowed url := by
  obtain ⟨other, hother, sent, hlength, hsent⟩ := h
  have hle := (isShortest_encode (literal_of_append_eq hsent hurl)).least sent rfl
  rcases UrlScheme.eq_or_text_eq_of_detect? hdetect hother (prefix_toList_of_append_eq hsent) with
    rfl | htext
  · have hsame : decode sent = body := (String.append_right_inj _).mp (hsent.trans hbody.symm)
    rw [hsame] at hle
    omega
  · have hwww : "www." ++ body = decode sent := by
      rw [htext, String.append_assoc] at hbody
      exact (String.append_right_inj _).mp (hbody.trans hsent.symm)
    rw [← hwww] at hle
    rcases length_encode_le_www (literal_of_append_eq hbody hurl) with hbad | ⟨rest, rfl⟩
    · omega
    · have hschemes : ∀ s ∈ UrlScheme.known, ∀ t ∈ UrlScheme.known, s.text = t.text ++ "www." →
          s ∈ [UrlScheme.httpWww, .httpsWww] := by simp [UrlScheme.known, UrlScheme.text]
      have hscheme := hschemes scheme (List.mem_of_find?_eq_some hdetect) other hother htext
      rw [length_encode_info] at hlong
      rw [length_encode_www_info] at hle
      exact ⟨scheme, hscheme, rest, hbody, by omega⟩

theorem exists_body_of_shadowed {url : String} (h : Shadowed url) :
    ∃ scheme ∈ UrlScheme.known, ∃ body, EddystoneFrame.ofUrl url = .url scheme body ∧
      (encode body).length = 18 := by
  obtain ⟨scheme, hscheme, rest, hrest, hlength⟩ := h
  have hdetect := UrlScheme.detect?_of_www hscheme (prefix_toList_of_append_eq hrest)
  obtain ⟨hknown, body, hbody, hframe⟩ := UrlScheme.exists_body_of_detect? hdetect
  have hsame : body = "info/" ++ rest := (String.append_right_inj _).mp (hbody.trans hrest.symm)
  refine ⟨scheme, hknown, body, hframe, ?_⟩
  rw [hsame, length_encode_info, hlength]

theorem carried_of_shadowed {url : String} (hurl : ∀ c ∈ url.toList, Literal c)
    (h : Shadowed url) : Carried url := by
  obtain ⟨scheme, hscheme, rest, hrest, hlength⟩ := h
  have hshorter : ∀ s ∈ [UrlScheme.httpWww, .httpsWww], ∃ t ∈ UrlScheme.known,
      s.text = t.text ++ "www." := by simp [UrlScheme.known, UrlScheme.text]
  obtain ⟨other, hother, htext⟩ := hshorter scheme hscheme
  have hsplit : other.text ++ ("www." ++ ("info/" ++ rest)) = url := by
    rw [← String.append_assoc, ← htext, hrest]
  have hliteral := literal_of_append_eq hsplit hurl
  refine ⟨other, hother, encode ("www." ++ ("info/" ++ rest)), ?_, ?_⟩
  · rw [length_encode_www_info, hlength]
  · rw [(decode_encode_eq_self_iff _).mpr hliteral, hsplit]

end Url

theorem EddystoneFrame.encode_url_eq_urlTooLong_iff {scheme : UrlScheme} {body : String}
    {flags : AdFlags} {txPower : Int8} {n : Nat} :
    (EddystoneFrame.url scheme body).encode flags txPower = .error (.urlTooLong n) ↔
      scheme ∈ UrlScheme.known ∧ 17 < n ∧ (Url.encode body).length = n := by
  constructor
  · intro h
    have hknown : scheme ∈ UrlScheme.known := by
      apply UrlScheme.mem_known_of_ne_unknown
      rintro code rfl
      cases h
    rw [encode_url hknown] at h
    split at h
    · rename_i hlong
      cases h
      exact ⟨hknown, hlong, rfl⟩
    · cases h
  · rintro ⟨hknown, hlong, rfl⟩
    exact (encode_url hknown body flags txPower).trans (if_pos hlong)

/-- A URL of literals is refused for its length only if no frame can carry it, unless it is
shadowed.  Shadowed URLs are refused, and could be carried. -/
theorem uncarried_of_urlTooLong_unless_shadowed {url : String}
    (hurl : ∀ c ∈ url.toList, Url.Literal c) {b : Beacon}
    (hframe : b.frame = .eddystone (.ofUrl url)) :
    (∀ n, b.tryEncode = .error (.urlTooLong n) → ¬ Url.Shadowed url → ¬ Url.Carried url) ∧
      (Url.Shadowed url → b.tryEncode = .error (.urlTooLong 18) ∧ Url.Carried url) := by
  have hencode : b.tryEncode = (EddystoneFrame.ofUrl url).encode b.flags b.txPower := by
    rw [Beacon.tryEncode, hframe]
  constructor
  · intro n hrefused hplain hcarried
    rw [hencode] at hrefused
    cases hdetect : UrlScheme.detect? url with
    | none =>
      rw [EddystoneFrame.ofUrl, hdetect] at hrefused
      cases hrefused
    | some scheme =>
      obtain ⟨-, body, hbody, hurlFrame⟩ := UrlScheme.exists_body_of_detect? hdetect
      rw [hurlFrame] at hrefused
      obtain ⟨-, hlong, rfl⟩ := EddystoneFrame.encode_url_eq_urlTooLong_iff.mp hrefused
      exact hplain (Url.shadowed_of_carried hurl hdetect hbody hlong hcarried)
  · intro hshadowed
    refine ⟨?_, Url.carried_of_shadowed hurl hshadowed⟩
    obtain ⟨scheme, hscheme, body, hurlFrame, hlength⟩ := Url.exists_body_of_shadowed hshadowed
    rw [hencode, hurlFrame]
    exact EddystoneFrame.encode_url_eq_urlTooLong_iff.mpr ⟨hscheme, by decide, hlength⟩

/-- The longest URL that a frame can carry only if the dot of `www.` is spelled with an ending. -/
def shadowedUrl : String := "http://www.info/abcdefghijklm"

/-- A letter more, and no frame can carry it. -/
def lengthyUrl : String := "http://www.info/abcdefghijklmn"

theorem uncarried_of_urlTooLong_lengthyUrl :
    (∀ c ∈ lengthyUrl.toList, Url.Literal c) ∧
    (Beacon.ofFrame (.eddystone (.ofUrl lengthyUrl)) (-21)).tryEncode = .error (.urlTooLong 19) ∧
    ¬ Url.Shadowed lengthyUrl ∧ ¬ Url.Carried lengthyUrl ∧
    Url.Shadowed shadowedUrl ∧ Url.Carried shadowedUrl := by
  have hurl : ∀ c ∈ lengthyUrl.toList, Url.Literal c := by simp [lengthyUrl, Url.Literal]
  have hrefused : (Beacon.ofFrame (.eddystone (.ofUrl lengthyUrl)) (-21)).tryEncode =
      .error (.urlTooLong 19) := by decide +kernel
  have hplain : ¬ Url.Shadowed lengthyUrl := by
    rintro ⟨scheme, hscheme, rest, hrest, hlength⟩
    have hfirst := UrlScheme.detect?_of_www hscheme (Url.prefix_toList_of_append_eq hrest)
    obtain rfl : UrlScheme.httpWww = scheme := Option.some.inj hfirst
    have hsplit : UrlScheme.httpWww.text ++ ("info/" ++ "abcdefghijklmn") = lengthyUrl := rfl
    have hsame : rest = "abcdefghijklmn" :=
      (String.append_right_inj _).mp ((String.append_right_inj _).mp (hrest.trans hsplit.symm))
    rw [hsame] at hlength
    exact absurd hlength (by decide +kernel)
  have hshadowed : Url.Shadowed shadowedUrl :=
    ⟨.httpWww, by decide, "abcdefghijklm", rfl, by decide +kernel⟩
  have hliteral : ∀ c ∈ shadowedUrl.toList, Url.Literal c := by simp [shadowedUrl, Url.Literal]
  have hframe : (Beacon.ofFrame (.eddystone (.ofUrl shadowedUrl)) (-21)).frame =
      .eddystone (.ofUrl shadowedUrl) := rfl
  obtain ⟨-, hcarried⟩ := (uncarried_of_urlTooLong_unless_shadowed hliteral hframe).2 hshadowed
  exact ⟨hurl, hrefused, hplain,
    (uncarried_of_urlTooLong_unless_shadowed hurl rfl).1 19 hrefused hplain, hshadowed, hcarried⟩

theorem carried_of_urlTooLong_shadowedUrl :
    (∀ c ∈ shadowedUrl.toList, Url.Literal c) ∧
    (Beacon.ofFrame (.eddystone (.ofUrl shadowedUrl)) (-21)).tryEncode = .error (.urlTooLong 18) ∧
    UrlScheme.http ∈ UrlScheme.known ∧
    ∃ sent, UrlScheme.http.text ++ Url.decode sent = shadowedUrl ∧ sent.length = 17 :=
  ⟨by simp [shadowedUrl, Url.Literal], by decide +kernel, by decide,
    [0x77, 0x77, 0x77, 0x04] ++ utf8Bytes "abcdefghijklm".toList, by decide +kernel,
    by decide +kernel⟩

end BleBeacon
