import Mathlib
import BleBeacon.Proofs.Capture.Replay
import BleBeacon.Proofs.Effect

/-!
# Captures with and without packet types

A capture keeps the type of a packet in front of its body, or leaves it out and marks the flags of
the record.  Either way the same packets are replayed, and a scan of them writes the same.
-/

namespace BleBeacon.Capture

/-! ## Packets in records -/

/-- The packets that flags can tell apart. -/
inductive PacketKind where
  | command
  -- Data of a connection, sent or received.
  | data
  | event
deriving DecidableEq

namespace PacketKind

def code : PacketKind → UInt8
  | command => 0x01
  | data => 0x02
  | event => 0x04

/-- Flags of a record that holds a packet of this kind.  Two bits tell, and the others are free. -/
def MarkedBy (flags : UInt32) : PacketKind → Prop
  | command => flags.toNat.testBit 1 ∧ ¬ flags.toNat.testBit 0
  | data => ¬ flags.toNat.testBit 1
  | event => flags.toNat.testBit 1 ∧ flags.toNat.testBit 0

instance (flags : UInt32) : (kind : PacketKind) → Decidable (kind.MarkedBy flags)
  | command => inferInstanceAs (Decidable (_ ∧ _))
  | data => inferInstanceAs (Decidable (¬ _))
  | event => inferInstanceAs (Decidable (_ ∧ _))

theorem packetType_eq_code_iff (flags : UInt32) (kind : PacketKind) :
    packetType flags = kind.code ↔ kind.MarkedBy flags := by
  rw [packetType, controlFlag, receivedFlag]
  cases hcontrol : flags.toNat.testBit 1 <;> cases hreceived : flags.toNat.testBit 0 <;>
    cases kind <;> simp [code, MarkedBy, hcontrol, hreceived]

end PacketKind

structure HciPacket where
  kind : PacketKind
  body : Bytes
deriving DecidableEq

def HciPacket.bytes (p : HciPacket) : Bytes := p.kind.code :: p.body

/-- Records that keep a packet under a datalink, whatever else they say. -/
def Datalink.Keeps (datalink : Datalink) (p : HciPacket) (r : Record) : Prop :=
  match datalink with
  | .h4 => r.data = p.bytes
  | .h1 => r.data = p.body ∧ p.kind.MarkedBy r.flags

instance (datalink : Datalink) (p : HciPacket) (r : Record) : Decidable (datalink.Keeps p r) :=
  match datalink with
  | .h4 => inferInstanceAs (Decidable (r.data = p.bytes))
  | .h1 => inferInstanceAs (Decidable (r.data = p.body ∧ p.kind.MarkedBy r.flags))

namespace Datalink.Keeps

variable {datalink : Datalink} {p : HciPacket} {r : Record}

theorem packet_eq (h : datalink.Keeps p r) : datalink.packet r.flags r.data = p.bytes := by
  cases datalink with
  | h4 => exact h
  | h1 =>
    obtain ⟨hdata, hmarked⟩ := h
    rw [Datalink.packet, hdata, (p.kind.packetType_eq_code_iff r.flags).mpr hmarked]
    rfl

-- The type in front takes the one byte that a body leaves.
theorem fits (h : datalink.Keeps p r) (hbody : p.body.length ≤ 65535) : r.Fits := by
  have hlength : r.data.length ≤ p.body.length + 1 := by
    cases datalink with
    | h4 => rw [show r.data = p.bytes from h, HciPacket.bytes, List.length_cons]
    | h1 =>
      rw [h.1]
      omega
  rw [Record.Fits]
  omega

end Datalink.Keeps

/-! ## Whole captures -/

/-- A capture that ends behind its last record. -/
def ofRecords (datalink : Datalink) (records : List Record) : Bytes :=
  header datalink ++ records.flatMap Record.serialize

theorem start_ofRecords (datalink : Datalink) (records : List Record) :
    Reader.start (.ofBytes (ofRecords datalink records)) =
      .ok ⟨datalink, .ofBytes (records.flatMap Record.serialize)⟩ := by
  cases datalink <;> rfl

theorem content_ofRecords {records : List Record} (h : ∀ r ∈ records, r.Fits) :
    Content (records.flatMap Record.serialize) records [] :=
  ⟨h, by decide, (List.append_nil _).symm⟩

/-- A capture is replayed to the packets of all of its records. -/
theorem result_ofRecords (path : String) (datalink : Datalink) {records : List Record}
    (h : ∀ r ∈ records, r.Fits) :
    (Opening.ofCapture path (.ofBytes (ofRecords datalink records))).result =
      .ok (records.map fun r ↦ datalink.packet r.flags r.data) := by
  have hresult := result_ofCapture path (start_ofRecords datalink records)
  rw [Reader.records_content datalink (content_ofRecords h)] at hresult
  exact hresult

/-- Opening a capture is logged, and writes nothing. -/
theorem written_ofCapture (path : String) (stream : Stream) (name : StreamName) :
    Effect.written name (Opening.ofCapture path stream).effects = "" := by
  rw [Opening.ofCapture]
  cases replay path stream with
  | error e => rfl
  | ok replay => exact Effect.written_map_log name replay.opening

theorem result_of_keeps (path : String) {datalink : Datalink} {packets : List HciPacket}
    {records : List Record} (hbodies : ∀ p ∈ packets, p.body.length ≤ 65535)
    (hkeeps : List.Forall₂ datalink.Keeps packets records) :
    (Opening.ofCapture path (.ofBytes (ofRecords datalink records))).result =
      .ok (packets.map HciPacket.bytes) := by
  have hfits : ∀ r ∈ records, r.Fits := by
    induction hkeeps with
    | nil => exact fun r hr ↦ absurd hr List.not_mem_nil
    | cons hkeep _ ih =>
      obtain ⟨hbody, hrest⟩ := List.forall_mem_cons.mp hbodies
      exact List.forall_mem_cons.mpr ⟨hkeep.fits hbody, ih hrest⟩
  have hpackets : (records.map fun r ↦ datalink.packet r.flags r.data) =
      packets.map HciPacket.bytes := by
    induction hkeeps with
    | nil => rfl
    | cons hkeep _ ih =>
      rw [List.map_cons, List.map_cons, hkeep.packet_eq,
        ih (List.forall_mem_cons.mp hbodies).2 (List.forall_mem_cons.mp hfits).2]
  rw [result_ofRecords path datalink hfits, hpackets]

/-- A scan of a capture writes what it writes about the packets, and nothing before. -/
theorem written_run_ofCapture {r : ScanRequest} {w : Surroundings} {path : String} {stream : Stream}
    {packets : List Bytes} (hsource : w.source r.source = Opening.ofCapture path stream)
    (hpackets : (Opening.ofCapture path stream).result = .ok packets) (name : StreamName) :
    Effect.written name (r.run w).effects =
      Effect.written name (Scan.run r.settings (w.events 0 packets)) := by
  rw [r.written_run w (by rw [hsource, hpackets]), hsource, written_ofCapture, String.empty_append]

/-- Packets are replayed as they were captured, whether their types are kept in front of them or in
the flags of their records.  So scans of both captures end well and write the same. -/
theorem replay_of_keeps {packets : List HciPacket} {typed bare : List Record}
    (hbodies : ∀ p ∈ packets, p.body.length ≤ 65535)
    (htyped : List.Forall₂ Datalink.h4.Keeps packets typed)
    (hbare : List.Forall₂ Datalink.h1.Keeps packets bare) (path path' : String) :
    (Opening.ofCapture path (.ofBytes (ofRecords .h4 typed))).result =
        .ok (packets.map HciPacket.bytes) ∧
      (Opening.ofCapture path' (.ofBytes (ofRecords .h1 bare))).result =
        .ok (packets.map HciPacket.bytes) ∧
      ∀ (r r' : ScanRequest) (w w' : Surroundings),
        w.source r.source = Opening.ofCapture path (.ofBytes (ofRecords .h4 typed)) →
        w'.source r'.source = Opening.ofCapture path' (.ofBytes (ofRecords .h1 bare)) →
        r.settings = r'.settings → w.times = w'.times →
        (r.run w).result = .ok () ∧ (r'.run w').result = .ok () ∧
          ∀ stream, Effect.written stream (r.run w).effects =
            Effect.written stream (r'.run w').effects := by
  have hresult := result_of_keeps path hbodies htyped
  have hresult' := result_of_keeps path' hbodies hbare
  refine ⟨hresult, hresult', ?_⟩
  intro r r' w w' hsource hsource' hsettings htimes
  refine ⟨r.result_run w (by rw [hsource, hresult]), r'.result_run w' (by rw [hsource', hresult']),
    fun stream ↦ ?_⟩
  rw [written_run_ofCapture hsource hresult, written_run_ofCapture hsource' hresult', hsettings,
    Surroundings.events_congr htimes]

/-- A packet of each kind, and data in the other direction. -/
def mixedPackets : List HciPacket :=
  [⟨.command, [0x0C, 0x20, 0x02, 0x01, 0x00]⟩, ⟨.data, [0x40, 0x20]⟩, ⟨.event, [0x3E]⟩, ⟨.data, []⟩]

def mixedTyped : List Record :=
  [⟨6, 0, 0, 5, [0x01, 0x0C, 0x20, 0x02, 0x01, 0x00]⟩, ⟨3, 3, 0, 6, [0x02, 0x40, 0x20]⟩,
    ⟨2, 0, 1, 7, [0x04, 0x3E]⟩, ⟨1, 7, 1, 8, [0x02]⟩]

/-- The same packets without their types, some under flags that do not matter. -/
def mixedBare : List Record :=
  [⟨5, 0x102, 0, 5, [0x0C, 0x20, 0x02, 0x01, 0x00]⟩, ⟨2, 1, 0, 6, [0x40, 0x20]⟩,
    ⟨1, 0xFFFFFFFF, 1, 7, [0x3E]⟩, ⟨0, 4, 1, 8, []⟩]

/-- A request to scan a capture for all that it has. -/
def captureScan : ScanRequest := ⟨⟨.btsnoop, 0, "-"⟩, ⟨.all, "beacon", none, [], true⟩⟩

/-- Surroundings in which a capture is the only source, and each packet takes a second. -/
def surroundingsOf (bytes : Bytes) : Surroundings :=
  ⟨fun _ ↦ Opening.ofCapture "-" (.ofBytes bytes), .granting,
    fun n ↦ (1000000000 * n, 1000000000 * n)⟩

theorem source_surroundingsOf (bytes : Bytes) (config : SourceConfig) :
    (surroundingsOf bytes).source config = Opening.ofCapture "-" (.ofBytes bytes) :=
  rfl

theorem times_surroundingsOf (bytes bytes' : Bytes) :
    (surroundingsOf bytes).times = (surroundingsOf bytes').times :=
  rfl

theorem replay_of_keeps_mixedPackets :
    (∀ p ∈ mixedPackets, p.body.length ≤ 65535) ∧
    List.Forall₂ Datalink.h4.Keeps mixedPackets mixedTyped ∧
    List.Forall₂ Datalink.h1.Keeps mixedPackets mixedBare ∧
    (Opening.ofCapture "-" (.ofBytes (ofRecords .h1 mixedBare))).result =
      .ok [[0x01, 0x0C, 0x20, 0x02, 0x01, 0x00], [0x02, 0x40, 0x20], [0x04, 0x3E], [0x02]] ∧
    ∀ stream,
      Effect.written stream
          (captureScan.run (surroundingsOf (ofRecords .h4 mixedTyped))).effects =
        Effect.written stream
          (captureScan.run (surroundingsOf (ofRecords .h1 mixedBare))).effects := by
  have hbodies : ∀ p ∈ mixedPackets, p.body.length ≤ 65535 := by decide
  have htyped : List.Forall₂ Datalink.h4.Keeps mixedPackets mixedTyped := by decide
  have hbare : List.Forall₂ Datalink.h1.Keeps mixedPackets mixedBare := by decide
  obtain ⟨-, hbareResult, hscan⟩ := replay_of_keeps hbodies htyped hbare "-" "-"
  obtain ⟨-, -, hwritten⟩ := hscan captureScan captureScan
    (surroundingsOf (ofRecords .h4 mixedTyped)) (surroundingsOf (ofRecords .h1 mixedBare))
    (source_surroundingsOf _ _) (source_surroundingsOf _ _) rfl (times_surroundingsOf _ _)
  exact ⟨hbodies, htyped, hbare, hbareResult, hwritten⟩

end BleBeacon.Capture
