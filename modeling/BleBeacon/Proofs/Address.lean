import Mathlib
import BleBeacon.Address

/-!
# Addresses as text

The text of an address has a fixed length and spells all of its bytes, so it can stand in front of
other text without a mark behind it.
-/

namespace BleBeacon.DeviceAddress

theorem decode?_upperPair (b : UInt8) : Hex.decode? (upperPair b) = some [b] := by
  have hall : ∀ k : Fin 256, Hex.decode? (upperPair (UInt8.ofNat k.val)) =
      some [UInt8.ofNat k.val] := by
    decide +kernel
  have hb := hall ⟨b.toNat, b.toNat_lt⟩
  rwa [UInt8.ofNat_toNat] at hb

theorem upperPair_injective : Function.Injective upperPair := by
  intro b b' h
  have hdecode := decode?_upperPair b
  rw [h, decode?_upperPair b'] at hdecode
  exact (List.singleton_inj.mp (Option.some.inj hdecode)).symm

theorem length_upperPair (b : UInt8) : (upperPair b).length = 2 := rfl

theorem length_intercalate_pairs (bytes : Bytes) :
    ([':'].intercalate (bytes.map upperPair)).length = 3 * bytes.length - 1 := by
  induction bytes with
  | nil => rfl
  | cons b rest ih =>
    cases rest with
    | nil => rfl
    | cons c rest =>
      rw [List.map_cons, List.map_cons, List.intercalate_cons_cons, ← List.map_cons,
        List.length_append, List.length_append, ih, length_upperPair]
      simp only [List.length_cons, List.length_nil]
      omega

theorem length_chars (a : DeviceAddress) : a.chars.length = 17 := by
  have hlength : a.bytes.length = 6 := a.octets.2
  rw [chars, length_intercalate_pairs, hlength]

theorem colon_not_mem_upperPair (b : UInt8) : ':' ∉ upperPair b := by
  have hupper : ∀ n : Fin 16, (Hex.digit n.val).toUpper ≠ ':' := by decide
  intro hmem
  rcases List.mem_pair.mp hmem with h | h
  · exact hupper ⟨b.toNat / 16, Nat.div_lt_of_lt_mul b.toNat_lt⟩ h.symm
  · exact hupper ⟨b.toNat % 16, Nat.mod_lt _ (by decide)⟩ h.symm

theorem bytes_ne_nil (a : DeviceAddress) : a.bytes ≠ [] := by
  intro h
  have hlength : a.bytes.length = 6 := a.octets.2
  rw [h] at hlength
  cases hlength

theorem splitOn_chars (a : DeviceAddress) : a.chars.splitOn ':' = a.bytes.map upperPair := by
  refine List.splitOn_intercalate ':' ?_ (List.map_eq_nil_iff.not.mpr a.bytes_ne_nil)
  exact List.forall_mem_map.mpr fun b _ ↦ colon_not_mem_upperPair b

theorem chars_injective : Function.Injective chars := by
  intro a a' h
  have hpairs : a.bytes.map upperPair = a'.bytes.map upperPair := by
    rw [← splitOn_chars, ← splitOn_chars, h]
  rcases a with ⟨octets⟩
  rcases a' with ⟨octets'⟩
  have hbytes : octets.1 = octets'.1 := upperPair_injective.list_map hpairs
  rw [Subtype.ext hbytes]

end BleBeacon.DeviceAddress
