import Mathlib
import BleBeacon.Proofs.Hci.Command
import BleBeacon.Proofs.Hci.Receiving

/-!
# Following a plan

What the kernel answers to a call depends on how many calls of its name came before.  A plan is made
call by call as long as the answers are good.  So a run is either the whole plan, or the part of it
up to the first call that fails, and a plan has no other runs.
-/

namespace BleBeacon.Hci

/-- How many calls there are of each name. -/
def madeBy (calls : List Call) : CallName → Nat := fun name ↦ calls.countP (·.name = name)

/-- The kernel's answer to a call behind some others. -/
def Kernel.answer (kernel : Kernel) (earlier : List Call) (call : Call) : Option Nat :=
  kernel.errno? call.name (madeBy earlier call.name)

/-- None of these calls fails when they are made in order. -/
def Kernel.Grants (kernel : Kernel) (calls : List Call) : Prop :=
  ∀ earlier call, earlier ++ [call] <+: calls → kernel.answer earlier call = none

def CallRecord.granted (call : Call) : CallRecord := ⟨call, none⟩

/-- How a plan goes: all of its calls are made, or it ends at the first that fails. -/
inductive Follows (kernel : Kernel) (plan : List Call) :
    List CallRecord → Except ScanError Unit → Prop where
  | completed (hgrants : kernel.Grants plan) :
      Follows kernel plan (plan.map .granted) (.ok ())
  | failed {earlier : List Call} {call : Call} {errno : Nat} (hplan : earlier ++ [call] <+: plan)
      (hgrants : kernel.Grants earlier) (hfails : kernel.answer earlier call = some errno) :
      Follows kernel plan (earlier.map .granted ++ [⟨call, some errno⟩])
        (.error (call.failure kernel.errorText errno))

theorem Call.exists_failure_eq (errorText : Nat → String) (call : Call) (errno : Nat) :
    ∃ text, call.failure errorText errno =
      .bluetooth (text ++ (errorText errno ++ (" (os error " ++ toString errno ++ ")"))) :=
  ⟨_, rfl⟩

variable {kernel : Kernel} {plan : List Call}

theorem Kernel.Grants.nil : kernel.Grants [] := fun earlier call h ↦
  absurd (List.prefix_nil.mp h) (by simp)

theorem Kernel.Grants.concat {calls : List Call} {call : Call} (h : kernel.Grants calls)
    (hcall : kernel.answer calls call = none) : kernel.Grants (calls ++ [call]) := by
  intro earlier call' hstarts
  rcases List.prefix_concat_iff.mp hstarts with heq | hstarts
  · obtain ⟨rfl, hlast⟩ := List.append_inj' heq rfl
    cases hlast
    exact hcall
  · exact h earlier call' hstarts

theorem Kernel.Grants.answer_ne {calls earlier : List Call} {call : Call} (h : kernel.Grants calls)
    (hstarts : earlier ++ [call] <+: calls) (errno : Nat) :
    kernel.answer earlier call ≠ some errno := by
  rw [h earlier call hstarts]
  exact (Option.some_ne_none errno).symm

theorem madeBy_concat (calls : List Call) (call : Call) :
    madeBy (calls ++ [call]) =
      fun name ↦ if name = call.name then madeBy calls name + 1 else madeBy calls name := by
  funext name
  rw [madeBy, List.countP_append, List.countP_singleton]
  by_cases hname : name = call.name
  · rw [if_pos hname, if_pos (decide_eq_true hname.symm)]
    rfl
  · rw [if_neg hname, if_neg (by simpa using Ne.symm hname)]
    rfl

-- The calls that have been made succeeded, or the run would have ended with them.
theorem follows_runFrom {earlier : List Call} (hearlier : kernel.Grants earlier)
    (plan : List Call) :
    Follows kernel (earlier ++ plan)
      (earlier.map .granted ++ (runFrom kernel (madeBy earlier) plan).calls)
      (runFrom kernel (madeBy earlier) plan).result := by
  induction plan generalizing earlier with
  | nil =>
    rw [runFrom, List.append_nil, List.append_nil]
    exact .completed hearlier
  | cons call rest ih =>
    rw [runFrom]
    cases hanswer : kernel.errno? call.name (madeBy earlier call.name) with
    | some errno =>
      exact .failed ⟨rest, by rw [List.append_assoc, List.singleton_append]⟩ hearlier hanswer
    | none =>
      have hrest := ih (hearlier.concat hanswer)
      rw [madeBy_concat, List.map_append, List.append_assoc, List.append_assoc] at hrest
      exact hrest

theorem follows_run (kernel : Kernel) (plan : List Call) :
    Follows kernel plan (run kernel plan).calls (run kernel plan).result :=
  follows_runFrom .nil plan

-- Of two calls that fail, one comes before the other, which is then not made.
theorem Follows.unique {calls calls' : List CallRecord} {ended ended' : Except ScanError Unit}
    (h : Follows kernel plan calls ended) (h' : Follows kernel plan calls' ended') :
    calls = calls' ∧ ended = ended' := by
  cases h with
  | completed hgrants =>
    cases h' with
    | completed hgrants' => exact ⟨rfl, rfl⟩
    | failed hplan' hgrants' hfails' => exact absurd hfails' (hgrants.answer_ne hplan' _)
  | @failed earlier call errno hplan hgrants hfails =>
    cases h' with
    | completed hgrants' => exact absurd hfails (hgrants'.answer_ne hplan _)
    | @failed earlier' call' errno' hplan' hgrants' hfails' =>
      have hsame : earlier ++ [call] = earlier' ++ [call'] := by
        rcases List.prefix_or_prefix_of_prefix hplan hplan' with hle | hle
        · rcases List.prefix_concat_iff.mp hle with heq | hle
          · exact heq
          · exact absurd hfails (hgrants'.answer_ne hle _)
        · rcases List.prefix_concat_iff.mp hle with heq | hle
          · exact heq.symm
          · exact absurd hfails' (hgrants.answer_ne hle _)
      obtain ⟨rfl, hlast⟩ := List.append_inj' hsame rfl
      cases hlast
      cases hfails.symm.trans hfails'
      exact ⟨rfl, rfl⟩

theorem follows_iff {calls : List CallRecord} {ended : Except ScanError Unit} :
    Follows kernel plan calls ended ↔
      calls = (run kernel plan).calls ∧ ended = (run kernel plan).result := by
  refine ⟨fun h ↦ h.unique (follows_run kernel plan), ?_⟩
  rintro ⟨rfl, rfl⟩
  exact follows_run kernel plan

/-- No call is made that is not planned. -/
theorem Follows.call_mem {calls : List CallRecord} {ended : Except ScanError Unit}
    (h : Follows kernel plan calls ended) {record : CallRecord} (hrecord : record ∈ calls) :
    record.call ∈ plan := by
  cases h with
  | completed hgrants =>
    obtain ⟨call, hcall, rfl⟩ := List.mem_map.mp hrecord
    exact hcall
  | failed hplan hgrants hfails =>
    apply hplan.subset
    rcases List.mem_append.mp hrecord with hrecord | hrecord
    · obtain ⟨call, hcall, rfl⟩ := List.mem_map.mp hrecord
      exact List.mem_append_left _ hcall
    · cases List.mem_singleton.mp hrecord
      exact List.mem_append_right _ (List.mem_singleton_self _)

/-! ## Sending and scanning -/

/-- Only LE meta events are let through to the socket that takes the events. -/
theorem scanPlan_eq (device : UInt16) : scanPlan device =
    [.socket, .bind 0 device, .setFilter 0 ⟨0x10, 0, 0x40000000⟩, .socket, .bind 1 device,
      .write 1 [0x01, 0x0B, 0x20, 0x07, 0x00, 0x10, 0x00, 0x10, 0x00, 0x00, 0x00],
      .write 1 [0x01, 0x0C, 0x20, 0x02, 0x01, 0x00]] := by
  rw [scanPlan, setScanParameters_always, setScanEnable_repeating]
  rfl

theorem follows_advertise (kernel : Kernel) (device : UInt16) (packets : List Bytes) :
    Follows kernel (sendPlan device packets) (advertise kernel device packets).calls
      (advertise kernel device packets).result := by
  have hsent := follows_run kernel (sendPlan device packets)
  rw [advertise]
  split <;> exact hsent

/-- A scan that cannot be set up passes on nothing. -/
theorem exists_follows_scan (kernel : Kernel) (device : UInt16) (reads : List Read) :
    ∃ ended, Follows kernel (scanPlan device) (scan kernel device reads).calls ended ∧
      (scan kernel device reads).result = ended.map fun _ ↦ metaEvents reads := by
  refine ⟨(run kernel (scanPlan device)).result, ?_, ?_⟩
  · have hsetup := follows_run kernel (scanPlan device)
    rw [scan]
    split <;> exact hsetup
  · cases hsetup : (run kernel (scanPlan device)).result with
    | ok ended => exact result_scan hsetup reads
    | error e =>
      rw [scan]
      simp only [hsetup]
      rfl

/-- All packets that are written are LE controller commands. -/
def WritesCommands (calls : List CallRecord) : Prop :=
  ∀ record ∈ calls, ∀ socket packet, record.call = .write socket packet → IsLeCommand packet

theorem Follows.writesCommands {calls : List CallRecord} {ended : Except ScanError Unit}
    (h : Follows kernel plan calls ended)
    (hplan : ∀ socket packet, .write socket packet ∈ plan → IsLeCommand packet) :
    WritesCommands calls := by
  intro record hrecord socket packet hcall
  have hmem := h.call_mem hrecord
  rw [hcall] at hmem
  exact hplan socket packet hmem

theorem isLeCommand_of_mem_scanPlan {device : UInt16} {socket : Nat} {packet : Bytes}
    (h : .write socket packet ∈ scanPlan device) : IsLeCommand packet := by
  simp only [scanPlan, List.mem_cons, reduceCtorEq, false_or, Call.write.injEq, List.not_mem_nil,
    or_false] at h
  rcases h with ⟨-, rfl⟩ | ⟨-, rfl⟩
  · exact isLeCommand_setScanParameters _ _
  · exact isLeCommand_setScanEnable _ _

theorem isLeCommand_of_mem_sendPlan {device : UInt16} {packets : List Bytes}
    (h : ∀ packet ∈ packets, IsLeCommand packet) {socket : Nat} {packet : Bytes}
    (hmem : .write socket packet ∈ sendPlan device packets) : IsLeCommand packet := by
  simp only [sendPlan, List.cons_append, List.nil_append, List.mem_cons, reduceCtorEq, false_or,
    List.mem_map, Call.write.injEq] at hmem
  obtain ⟨packet', hpacket, -, rfl⟩ := hmem
  exact h packet' hpacket

end BleBeacon.Hci
