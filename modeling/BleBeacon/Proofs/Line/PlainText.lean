import Mathlib
import BleBeacon.Uuid
import BleBeacon.Beacon.Url
import BleBeacon.Proofs.Address
import BleBeacon.Proofs.Line.OneLine
import BleBeacon.Proofs.Text.Groups

/-!
# Texts that mean nothing to a line

Addresses, identifiers and digits are written with characters that end nothing.  A URL may hold any
character below 256 but line breaks, whose codes stand for endings.
-/

namespace BleBeacon

namespace Line

/-- Characters that mean nothing in a line. -/
def isPlain (c : Char) : Bool := c.isAlphanum || c == ':' || c == '-' || c == '_'

def Plain (s : String) : Prop := ∀ c ∈ s.toList, isPlain c

instance (s : String) : Decidable (Plain s) :=
  List.decidableBAll (fun c ↦ isPlain c = true) s.toList

theorem ne_of_isPlain {c d : Char} (hc : isPlain c) (hd : isPlain d = false) : c ≠ d := by
  rintro rfl
  rw [hd] at hc
  cases hc

section

variable {s : String}

theorem Plain.not_mem (hs : Plain s) {c : Char} (hc : isPlain c = false) : c ∉ s.toList :=
  fun h ↦ ne_of_isPlain (hs c h) hc rfl

theorem Plain.oneLine (hs : Plain s) : OneLine s.toList := by
  rintro c hc (rfl | rfl)
  · exact hs.not_mem rfl hc
  · exact hs.not_mem rfl hc

theorem Plain.unseparated (hs : Plain s) : Unseparated s := by
  rintro c hc (rfl | rfl)
  · exact hs.not_mem rfl hc
  · exact hs.not_mem rfl hc

end

end Line

open Line

/-! ## Digits, addresses and identifiers -/

namespace Hex

theorem forall_mem_byteDigits {P : Char → Prop} (h : ∀ n : Fin 16, P (digit n.val)) (b : UInt8) :
    ∀ c ∈ byteDigits b, P c := by
  intro c hc
  have hb := b.toNat_lt
  rcases List.mem_pair.mp hc with rfl | rfl
  · exact h ⟨b.toNat / 16, by omega⟩
  · exact h ⟨b.toNat % 16, by omega⟩

theorem forall_mem_digits {P : Char → Prop} (h : ∀ n : Fin 16, P (digit n.val)) (bytes : Bytes) :
    ∀ c ∈ digits bytes, P c := by
  intro c hc
  obtain ⟨b, -, hc⟩ := List.mem_flatMap.mp hc
  exact forall_mem_byteDigits h b c hc

theorem isPlain_of_mem_digits (bytes : Bytes) : ∀ c ∈ digits bytes, isPlain c :=
  forall_mem_digits (by decide) bytes

theorem plain_encode (bytes : Bytes) : Plain (encode bytes) := by
  intro c hc
  rw [encode, String.toList_ofList] at hc
  exact isPlain_of_mem_digits bytes c hc

end Hex

namespace DeviceAddress

theorem isPlain_of_mem_upperPair (b : UInt8) : ∀ c ∈ upperPair b, isPlain c := by
  have hupper : ∀ n : Fin 16, isPlain (Hex.digit n.val).toUpper := by decide
  exact List.forall_mem_map.mpr (Hex.forall_mem_byteDigits hupper b)

theorem plain_text (a : DeviceAddress) : Plain a.text := by
  intro c hc
  rw [text, String.toList_ofList] at hc
  have hpairs : ∀ pair ∈ a.bytes.map upperPair, ∀ c ∈ pair, isPlain c :=
    List.forall_mem_map.mpr fun b _ ↦ isPlain_of_mem_upperPair b
  exact (forall_mem_intercalate (p := fun c ↦ isPlain c = true) rfl _).mpr hpairs c hc

end DeviceAddress

namespace Uuid

/-- Without its hyphens, an identifier is its digits. -/
theorem filter_chars (u : Uuid) : u.chars.filter (· != '-') = Hex.digits u.bytes := by
  have hdigits : ∀ c ∈ Hex.digits u.bytes, (c != '-') = true :=
    Hex.forall_mem_digits (by decide) u.bytes
  rw [chars]
  generalize Hex.digits u.bytes = ds at hdigits
  have hkeep : ∀ part : List Char, part ⊆ ds → part.filter (· != '-') = part := fun part hpart ↦
    List.filter_eq_self.mpr fun c hc ↦ hdigits c (hpart hc)
  have htake : ∀ n k, (ds.drop n).take k ⊆ ds := fun n k c hc ↦
    List.drop_subset n ds (List.take_subset k _ hc)
  have hsplit : ∀ n k, (ds.drop n).take k ++ ds.drop (n + k) = ds.drop n := fun n k ↦ by
    rw [← List.drop_drop, List.take_append_drop]
  have hhyphen : ∀ part : List Char, ('-' :: part).filter (· != '-') = part.filter (· != '-') :=
    fun part ↦ List.filter_cons_of_neg (by decide)
  simp only [List.filter_append, hhyphen, List.append_assoc]
  rw [hkeep _ (List.take_subset 8 ds), hkeep _ (htake 8 4), hkeep _ (htake 12 4),
    hkeep _ (htake 16 4), hkeep _ (List.drop_subset 20 ds), hsplit 16 4, hsplit 12 4, hsplit 8 4,
    List.take_append_drop]

theorem plain_text (u : Uuid) : Plain u.text := by
  intro c hc
  rw [text, String.toList_ofList] at hc
  by_cases hhyphen : c = '-'
  · rw [hhyphen]
    rfl
  · have hdigit : c ∈ Hex.digits u.bytes := by
      rw [← filter_chars]
      exact List.mem_filter.mpr ⟨hc, bne_iff_ne.mpr hhyphen⟩
    exact Hex.isPlain_of_mem_digits u.bytes c hdigit

theorem text_injective : Function.Injective text := by
  intro u v h
  have hchars : u.chars = v.chars := by
    rwa [text, text, ← String.toList_inj, String.toList_ofList, String.toList_ofList] at h
  have hbytes : Hex.decode? (Hex.digits u.bytes) = Hex.decode? (Hex.digits v.bytes) := by
    rw [← filter_chars, ← filter_chars, hchars]
  rw [Hex.decode?_digits, Hex.decode?_digits] at hbytes
  rcases u with ⟨octets⟩
  rcases v with ⟨octets'⟩
  exact congrArg Uuid.mk (Subtype.ext (Option.some.inj hbytes))

end Uuid

/-! ## URLs -/

/-- Line breaks are codes of endings, so no URL holds one. -/
theorem Url.oneLine_decode (sent : Bytes) : OneLine (Url.decode sent).toList := by
  have hall : ∀ k : Fin 256, OneLine (expandByte (UInt8.ofNat k.val)) := by decide +kernel
  rw [decode, String.toList_ofList]
  refine oneLine_flatMap fun b _ ↦ ?_
  have hb := hall ⟨b.toNat, b.toNat_lt⟩
  rwa [UInt8.ofNat_toNat] at hb

theorem UrlScheme.oneLine_text (scheme : UrlScheme) : OneLine scheme.text.toList := by
  cases scheme with
  | unknown code => exact oneLine_nil
  | _ => decide

end BleBeacon
