import Mathlib
import BleBeacon.Hci.Controller

/-!
# Receiving from a controller

Reading goes on behind every read that gives nothing.  So the packets that are passed on are those
of all reads that look like LE meta events, in the order of the reads.
-/

namespace BleBeacon.Hci

/-- The packet that a read gives, if it gives one: as much of it as a read takes. -/
def Read.packet? : Read → Option Bytes
  | packet bytes => if bytes = [] then none else some (bytes.take 258)
  | failed _ => none

/-- The packets that some reads give. -/
def packetsRead (reads : List Read) : List Bytes := reads.filterMap Read.packet?

/-- The packet that there is for a read, of any length. -/
def Read.sent? : Read → Option Bytes
  | packet bytes => if bytes = [] then none else some bytes
  | failed _ => none

/-- The packets that there are for some reads. -/
def packetsSent (reads : List Read) : List Bytes := reads.filterMap Read.sent?

/-- All of a packet is read, unless it is longer than a read takes. -/
theorem packetsRead_eq_packetsSent {reads : List Read}
    (h : ∀ bytes, .packet bytes ∈ reads → bytes.length ≤ 258) :
    packetsRead reads = packetsSent reads := by
  refine List.filterMap_congr fun read hread ↦ ?_
  cases read with
  | failed errno => rfl
  | packet bytes =>
    rw [Read.packet?, Read.sent?, List.take_of_length_le (h bytes hread)]

/-- Packets that start like an LE meta event and reach as far as its subevent. -/
def LeMeta (packet : Bytes) : Prop := 4 ≤ packet.length ∧ packet.take 2 = [0x04, 0x3E]

instance : DecidablePred LeMeta := fun packet ↦
  inferInstanceAs (Decidable (4 ≤ packet.length ∧ packet.take 2 = [0x04, 0x3E]))

theorem length_le_of_mem_packetsRead {reads : List Read} {packet : Bytes}
    (h : packet ∈ packetsRead reads) : packet.length ≤ maxEventLength := by
  obtain ⟨read, -, hread⟩ := List.mem_filterMap.mp h
  cases read with
  | failed errno => cases hread
  | packet bytes =>
    rw [Read.packet?] at hread
    split_ifs at hread
    cases hread
    exact List.length_take_le ..

theorem isMetaEvent_iff (packet : Bytes) : isMetaEvent packet ↔ LeMeta packet := by
  match packet with
  | [] | [_] | [_, _] | [_, _, _] => simp [isMetaEvent, LeMeta]
  | type :: code :: _ :: _ :: _ => simp [isMetaEvent, LeMeta, eventPacket, leMetaEvent]

/-- The packets of some reads that are to be passed on. -/
def metaEvents (reads : List Read) : List Bytes := (packetsRead reads).filter (LeMeta ·)

theorem metaEvents_packet (bytes : Bytes) (rest : List Read) :
    metaEvents (.packet bytes :: rest) =
      (if isMetaEvent (bytes.take maxEventLength) then [bytes.take maxEventLength] else []) ++
        metaEvents rest := by
  show _ = (if isMetaEvent (bytes.take 258) then [bytes.take 258] else []) ++ metaEvents rest
  rw [metaEvents, packetsRead, List.filterMap_cons, Read.packet?, metaEvents, packetsRead]
  split_ifs with hempty hmeta hmeta
  · rw [hempty] at hmeta
    exact absurd hmeta (by decide)
  · rfl
  · exact List.filter_cons_of_pos (decide_eq_true ((isMetaEvent_iff _).mp hmeta))
  · exact List.filter_cons_of_neg fun h ↦ hmeta ((isMetaEvent_iff _).mpr (of_decide_eq_true h))

-- What one round passes on and what it leaves to be read are all there was.
theorem packets_drain_append (errorText : Nat → String) (reads : List Read) :
    (drain errorText reads).1.packets ++ metaEvents (drain errorText reads).2 =
      metaEvents reads := by
  induction reads with
  | nil => rfl
  | cons read rest ih =>
    cases read with
    | failed errno => rfl
    | packet bytes =>
      rw [metaEvents_packet, ← ih]
      simp only [drain]
      split_ifs with hempty hmeta hmeta
      · rw [hempty] at hmeta
        exact absurd hmeta (by decide)
      · exact ih.symm
      · rfl
      · rfl

theorem packets_receive (errorText : Nat → String) (reads : List Read) :
    (receive errorText reads).packets = metaEvents reads := by
  induction reads using receive.induct errorText with
  | case1 => rw [receive]; rfl
  | case2 read rest drained ih =>
    rw [receive, Received.append, ih]
    exact packets_drain_append errorText (read :: rest)

/-- A scan whose set-up succeeds passes on all LE meta events that are read. -/
theorem result_scan {kernel : Kernel} {device : UInt16}
    (hsetup : (run kernel (scanPlan device)).result = .ok ()) (reads : List Read) :
    (scan kernel device reads).result = .ok (metaEvents reads) := by
  rw [scan]
  simp only [hsetup]
  rw [packets_receive]

end BleBeacon.Hci
