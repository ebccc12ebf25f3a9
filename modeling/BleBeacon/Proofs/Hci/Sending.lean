import Mathlib
import BleBeacon.Proofs.Beacon.Refusal
import BleBeacon.Proofs.Effect
import BleBeacon.Proofs.Hci.Plan

/-!
# Handing a beacon to a controller

A beacon that is refused leaves no trace.  Any other is written first, and what the controller is
then asked to send are the bytes that have been written.  Neither sending nor scanning goes on
behind a call that fails, and all that is written to a controller are commands.
-/

namespace BleBeacon

/-- What is sent for a beacon: how to advertise, these bytes, and that it shall begin. -/
def Transmission.commands (t : Transmission) (bytes : Bytes) : List Bytes :=
  [[0x01, 0x06, 0x20, 0x0F] ++ Hci.lowFirst t.intervalMin ++ Hci.lowFirst t.intervalMax ++
      [0x03, 0x00, 0x00, 0x00, 0x00, 0x00, 0x00, 0x00, 0x00, 0x07, 0x00],
    [0x01, 0x08, 0x20, 0x20] ++ bytes, [0x01, 0x0A, 0x20, 0x01, 0x01]]

theorem Transmission.packets_of_spells (t : Transmission) {text : String} {bytes : Bytes}
    (h : Hex.Spells text bytes) (hlength : bytes.length = 32) :
    t.packets text = .ok (t.commands bytes) := by
  rw [packets, Hci.setAdvertisingData_of_length_eq h hlength, commands,
    ← Hci.setAdvertisingParameters_eq, ← Hci.setAdvertisingEnable_true]
  rfl

theorem Transmission.isLeCommand_of_mem_commands (t : Transmission) {text : String} {bytes : Bytes}
    (h : Hex.Spells text bytes) (hlength : bytes.length = 32) :
    ∀ packet ∈ t.commands bytes, Hci.IsLeCommand packet := by
  intro packet hpacket
  simp only [commands, List.mem_cons, List.not_mem_nil, or_false] at hpacket
  rcases hpacket with rfl | rfl | rfl
  · rw [← Hci.setAdvertisingParameters_eq]
    exact Hci.isLeCommand_setAdvertisingParameters _ _
  · exact Hci.isLeCommand_of_setAdvertisingData (Hci.setAdvertisingData_of_length_eq h hlength)
  · rw [← Hci.setAdvertisingEnable_true]
    exact Hci.isLeCommand_setAdvertisingEnable true

/-- Sending makes the calls of its plan, and ends as they do. -/
theorem Transmission.exists_follows_run (t : Transmission) {text : String} {packets : List Bytes}
    (h : t.packets text = .ok packets) (kernel : Hci.Kernel) :
    ∃ ended, Hci.Follows kernel (Hci.sendPlan t.device packets)
        (Effect.calls (t.run text kernel).effects) ended ∧
      (t.run text kernel).result = ended.mapError .scan := by
  have hrun : t.run text kernel =
      ⟨(Hci.advertise kernel t.device packets).calls.map .call ++
        (Hci.advertise kernel t.device packets).log.map .log,
        (Hci.advertise kernel t.device packets).result.mapError .scan⟩ := by
    rw [run, h]
  refine ⟨(Hci.advertise kernel t.device packets).result, ?_, ?_⟩
  · rw [hrun, Effect.calls_append, Effect.calls_map_call, Effect.calls_map_log, List.append_nil]
    exact Hci.follows_advertise kernel t.device packets
  · rw [hrun]

namespace EncodeRequest

variable {r : EncodeRequest} {text : String}

theorem run_of_transmission_eq_none (h : r.beacon.tryEncode = .ok text)
    (ht : r.transmission = none) (kernel : Hci.Kernel) :
    r.run kernel = ⟨Effect.line .out text, .ok ()⟩ := by
  rw [run_of_ok h, ht]
  rfl

theorem exists_follows_run {t : Transmission} (h : r.beacon.tryEncode = .ok text)
    (ht : r.transmission = some t) (kernel : Hci.Kernel) :
    ∃ bytes ended, Hex.decode text = .ok bytes ∧
      Hci.Follows kernel (Hci.sendPlan t.device (t.commands bytes))
        (Effect.calls (r.run kernel).effects) ended ∧
      (r.run kernel).result = ended.mapError .scan ∧
      Hci.WritesCommands (Effect.calls (r.run kernel).effects) := by
  obtain ⟨bytes, hspells, hlength⟩ := Beacon.spells_of_tryEncode h
  obtain ⟨ended, hfollows, hresult⟩ :=
    t.exists_follows_run (t.packets_of_spells hspells hlength) kernel
  rw [run_of_ok h, ht, Run.after, Effect.calls_append, Effect.calls_line, List.nil_append]
  refine ⟨bytes, ended, hspells.decode_eq, hfollows, hresult, ?_⟩
  exact hfollows.writesCommands fun _ _ ↦
    Hci.isLeCommand_of_mem_sendPlan (t.isLeCommand_of_mem_commands hspells hlength)

end EncodeRequest

/-- A refused beacon is neither written nor sent.  Any other is written; sending it, sending any
packets and setting up a scan make the calls of their plans up to the first that fails, with whose
error they end, and then nothing is passed on.  The data that is sent is what has been written, and
every packet of these plans is a command. -/
theorem plans_end_at_failure (kernel : Hci.Kernel) :
    (∀ (r : EncodeRequest) (e : EncodeError), r.beacon.tryEncode = .error e →
      r.run kernel = ⟨[], .error (.encode e)⟩) ∧
    (∀ (r : EncodeRequest) (text : String), r.beacon.tryEncode = .ok text →
      Effect.written .out (r.run kernel).effects = text ++ "\n" ∧
      (r.transmission = none →
        Effect.calls (r.run kernel).effects = [] ∧ (r.run kernel).result = .ok ()) ∧
      ∀ t, r.transmission = some t → ∃ bytes ended, Hex.decode text = .ok bytes ∧
        Hci.Follows kernel
          [.socket, .bind 0 t.device,
            .write 0 ([0x01, 0x06, 0x20, 0x0F] ++ Hci.lowFirst t.intervalMin ++
              Hci.lowFirst t.intervalMax ++
              [0x03, 0x00, 0x00, 0x00, 0x00, 0x00, 0x00, 0x00, 0x00, 0x07, 0x00]),
            .write 0 ([0x01, 0x08, 0x20, 0x20] ++ bytes),
            .write 0 [0x01, 0x0A, 0x20, 0x01, 0x01]]
          (Effect.calls (r.run kernel).effects) ended ∧
        (r.run kernel).result = ended.mapError .scan ∧
        Hci.WritesCommands (Effect.calls (r.run kernel).effects)) ∧
    (∀ (device : UInt16) (packets : List Bytes),
      Hci.Follows kernel ([.socket, .bind 0 device] ++ packets.map (.write 0))
        (Hci.advertise kernel device packets).calls
        (Hci.advertise kernel device packets).result) ∧
    (∀ (device : UInt16) (reads : List Hci.Read), ∃ ended,
      Hci.Follows kernel
        [.socket, .bind 0 device, .setFilter 0 ⟨0x10, 0, 0x40000000⟩, .socket, .bind 1 device,
          .write 1 [0x01, 0x0B, 0x20, 0x07, 0x00, 0x10, 0x00, 0x10, 0x00, 0x00, 0x00],
          .write 1 [0x01, 0x0C, 0x20, 0x02, 0x01, 0x00]]
        (Hci.scan kernel device reads).calls ended ∧
      (Hci.scan kernel device reads).result = ended.map (fun _ ↦ Hci.metaEvents reads) ∧
      Hci.WritesCommands (Hci.scan kernel device reads).calls) ∧
    (∀ (call : Hci.Call) (errno : Nat), ∃ text, call.failure kernel.errorText errno = .bluetooth
      (text ++ (kernel.errorText errno ++ (" (os error " ++ toString errno ++ ")")))) := by
  refine ⟨fun r e h ↦ r.run_of_error h kernel, ?_, Hci.follows_advertise kernel, ?_,
    Hci.Call.exists_failure_eq kernel.errorText⟩
  · intro r text h
    refine ⟨EncodeRequest.written_run_of_ok h kernel, ?_, ?_⟩
    · intro ht
      rw [EncodeRequest.run_of_transmission_eq_none h ht]
      exact ⟨Effect.calls_line .out text, rfl⟩
    · intro t ht
      exact EncodeRequest.exists_follows_run h ht kernel
  · intro device reads
    obtain ⟨ended, hfollows, hresult⟩ := Hci.exists_follows_scan kernel device reads
    have hcommands := hfollows.writesCommands fun _ _ ↦ Hci.isLeCommand_of_mem_scanPlan
    rw [Hci.scanPlan_eq] at hfollows
    exact ⟨ended, hfollows, hresult, hcommands⟩

def uidRequest : EncodeRequest where
  frame := .uid "00010203040506070809" "0a0b0c0d0e0f"
  txPower := -21
  overrides := ⟨none, none, none, none, none⟩
  transmission := some ⟨1, 0x00A0, 0x0140⟩

/-- The kernel of a controller that goes down behind the first packet that it is sent. -/
def kernelLosingController : Hci.Kernel :=
  .failingAt (fun errno ↦ if errno = 100 then "Network is down" else "Unknown error")
    (some (.write, 1, 100))

/-- What is asked of the kernel to send the data of this request. -/
def uidPlan : List Hci.Call :=
  [.socket, .bind 0 1,
    .write 0 [0x01, 0x06, 0x20, 0x0F, 0xA0, 0x00, 0x40, 0x01,
      0x03, 0x00, 0x00, 0x00, 0x00, 0x00, 0x00, 0x00, 0x00, 0x07, 0x00],
    .write 0 [0x01, 0x08, 0x20, 0x20, 0x1E, 0x02, 0x01, 0x1A, 0x03, 0x03, 0xAA, 0xFE, 0x17, 0x16,
      0xAA, 0xFE, 0x00, 0xEB, 0, 1, 2, 3, 4, 5, 6, 7, 8, 9, 10, 11, 12, 13, 14, 15, 0, 0],
    .write 0 [0x01, 0x0A, 0x20, 0x01, 0x01]]

theorem plans_end_at_failure_kernelLosingController :
    (({ uidRequest with frame := .uid "00" "" }).run kernelLosingController =
      ⟨[], .error (.encode (.invalidField .namespaceId "00"))⟩) ∧
    Effect.calls (({ uidRequest with transmission := none }).run kernelLosingController).effects =
      [] ∧
    (uidRequest.beacon.tryEncode =
        .ok "1e02011a0303aafe1716aafe00eb000102030405060708090a0b0c0d0e0f0000" ∧
      Effect.written .out (uidRequest.run kernelLosingController).effects =
        "1e02011a0303aafe1716aafe00eb000102030405060708090a0b0c0d0e0f0000\n" ∧
      (∃ ended, Hci.Follows kernelLosingController uidPlan
          (Effect.calls (uidRequest.run kernelLosingController).effects) ended ∧
        (uidRequest.run kernelLosingController).result = ended.mapError .scan) ∧
      Effect.calls (uidRequest.run kernelLosingController).effects =
        (uidPlan.take 4).zipWith .mk [none, none, none, some 100] ∧
      (uidRequest.run kernelLosingController).result = .error (.scan (.bluetooth
        "Failed to send HCI command: Network is down (os error 100)"))) ∧
    (Effect.calls (uidRequest.run .granting).effects = uidPlan.map .granted ∧
      (uidRequest.run .granting).result = .ok ()) ∧
    ((Hci.scan kernelLosingController 0 [.packet [0x04, 0x3E, 0x01, 0x02]]).calls.map
        (fun record ↦ (record.call.name, record.errno)) =
      [(.socket, none), (.bind, none), (.setFilter, none), (.socket, none), (.bind, none),
        (.write, none), (.write, some 100)] ∧
      (Hci.scan kernelLosingController 0 [.packet [0x04, 0x3E, 0x01, 0x02]]).result =
        .error (.bluetooth "Failed to send HCI command: Network is down (os error 100)")) := by
  have hencode : uidRequest.beacon.tryEncode =
      .ok "1e02011a0303aafe1716aafe00eb000102030405060708090a0b0c0d0e0f0000" := by decide +kernel
  obtain ⟨hrefused, haccepted, -, -, -⟩ := plans_end_at_failure kernelLosingController
  obtain ⟨hwritten, -, hsent⟩ := haccepted uidRequest _ hencode
  obtain ⟨-, hunsent, -⟩ := haccepted { uidRequest with transmission := none } _ hencode
  obtain ⟨bytes, ended, hdecode, hfollows, hresult, -⟩ := hsent ⟨1, 0x00A0, 0x0140⟩ rfl
  have hbytes : bytes = [0x1E, 0x02, 0x01, 0x1A, 0x03, 0x03, 0xAA, 0xFE, 0x17, 0x16, 0xAA, 0xFE,
      0x00, 0xEB, 0, 1, 2, 3, 4, 5, 6, 7, 8, 9, 10, 11, 12, 13, 14, 15, 0, 0] :=
    Except.ok.inj (hdecode.symm.trans (by decide +kernel))
  rw [hbytes] at hfollows
  exact ⟨hrefused _ _ (by decide +kernel), (hunsent rfl).1,
    ⟨hencode, hwritten, ⟨ended, hfollows, hresult⟩, by decide +kernel, by decide +kernel⟩,
    ⟨by decide +kernel, by decide +kernel⟩, by decide +kernel, by decide +kernel⟩

end BleBeacon
