import Mathlib
import BleBeacon.Proofs.Beacon.SignificantLength

/-!
# Only one format speaks of a beacon

The format that a beacon does not have finds nothing in its advertising data, and nothing wrong with
it: the structures are of other types, and the padding ends them.
-/

namespace BleBeacon

theorem AdWalk.items_replicate_zero (n count : Nat) :
    (AdWalk.mk n (List.replicate count 0)).items = [] := by
  cases count with
  | zero => exact AdWalk.items_nil n
  | succ count => exact AdWalk.items_zero n _

theorem findEddystone_eq_none {structures : List AdStructure}
    (h : ∀ s ∈ structures, s.type ≠ AdType.serviceData.code) (flags : AdFlags) (listed : Bool) :
    findEddystone flags listed (structures.map .ok) = .ok none := by
  induction structures generalizing flags listed with
  | nil => rfl
  | cons s rest ih =>
    obtain ⟨hs, hrest⟩ := List.forall_mem_cons.mp h
    have hdata : ¬(listed && s.isEddystoneData) = true := by
      simp [AdStructure.isEddystoneData, hs]
    rw [List.map_cons, findEddystone, if_neg hdata, ih hrest]

theorem findIBeacon_eq_none {structures : List AdStructure}
    (h : ∀ s ∈ structures, s.type ≠ AdType.manufacturerData.code) (flags : AdFlags) :
    findIBeacon flags (structures.map .ok) = .ok none := by
  induction structures generalizing flags with
  | nil => rfl
  | cons s rest ih =>
    obtain ⟨hs, hrest⟩ := List.forall_mem_cons.mp h
    have hdata : ¬s.isIBeaconData = true := by simp [AdStructure.isIBeaconData, hs]
    rw [List.map_cons, findIBeacon, if_neg hdata, ih hrest]

namespace AdvertisingData.Carries

variable {b : Beacon} {d : AdvertisingData}

theorem adItems_payload (h : d.Carries b) : adItems d.payload = d.structures.map .ok := by
  rw [payload, significant, adItems_serialize _ _ h.laidFrom, AdWalk.items_replicate_zero,
    List.append_nil]

theorem recognize_payload (h : d.Carries b) :
    b.kind.recognize d.payload = .ok (some b.onAir) :=
  h.recognize _

theorem type_of_mem_structures (h : d.Carries b) {s : AdStructure} (hs : s ∈ d.structures) :
    (b.kind = .eddystone → s.type ≠ AdType.manufacturerData.code) ∧
      (b.kind = .iBeacon → s.type ≠ AdType.serviceData.code) := by
  revert s
  cases h with
  | uid hframe => simp [Beacon.kind, hframe, eddystoneStructures, AdType.code]
  | url hframe => simp [Beacon.kind, hframe, eddystoneStructures, AdType.code]
  | iBeacon hframe => simp [Beacon.kind, hframe, iBeaconStructures, AdType.code]

theorem recognize_of_ne (h : d.Carries b) {kind : BeaconKind} (hkind : kind ≠ b.kind) :
    kind.recognize d.payload = .ok none := by
  have htypes := fun s hs ↦ h.type_of_mem_structures (s := s) hs
  cases kind with
  | eddystone =>
    have hother : b.kind = .iBeacon := by
      cases hb : b.kind with
      | eddystone => exact absurd hb.symm hkind
      | iBeacon => rfl
    rw [BeaconKind.recognize, h.adItems_payload]
    exact findEddystone_eq_none (fun s hs ↦ (htypes s hs).2 hother) _ _
  | iBeacon =>
    have hother : b.kind = .eddystone := by
      cases hb : b.kind with
      | eddystone => rfl
      | iBeacon => exact absurd hb.symm hkind
    rw [BeaconKind.recognize, h.adItems_payload]
    exact findIBeacon_eq_none (fun s hs ↦ (htypes s hs).1 hother) _

end AdvertisingData.Carries

end BleBeacon
