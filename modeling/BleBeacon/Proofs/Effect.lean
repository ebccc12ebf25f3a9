import Mathlib
import BleBeacon.Program

/-!
# What runs write

The text on a stream is that of the parts of a run, one after the other.  Streams without limits
change nothing about a run.  A request to scan writes what its scan writes, and a request to encode
that ends well writes the text of its beacon.
-/

namespace BleBeacon

/-- A kernel that refuses no call, and has no names for errors. -/
def Hci.Kernel.granting : Hci.Kernel := .failingAt (fun _ ↦ "Unknown error") none

namespace Effect

/-- The text of some lines. -/
def text (lines : List String) : String := String.join (lines.map (· ++ "\n"))

@[simp] theorem text_nil : text [] = "" := rfl

theorem text_cons (line : String) (lines : List String) :
    text (line :: lines) = line ++ "\n" ++ text lines := by
  rw [text, List.map_cons, String.join_cons]
  rfl

theorem text_append (xs ys : List String) : text (xs ++ ys) = text xs ++ text ys := by
  rw [text, List.map_append, String.join_append]
  rfl

@[simp] theorem written_nil (stream : StreamName) : written stream [] = "" := rfl

@[simp] theorem written_append (stream : StreamName) (xs ys : List Effect) :
    written stream (xs ++ ys) = written stream xs ++ written stream ys := by
  rw [written, List.filterMap_append, String.join_append]
  rfl

theorem written_flatten (stream : StreamName) (parts : List (List Effect)) :
    written stream parts.flatten = String.join (parts.map (written stream)) := by
  induction parts with
  | nil => rfl
  | cons part parts ih =>
    rw [List.flatten_cons, written_append, ih, List.map_cons, String.join_cons]

theorem written_line (stream : StreamName) (s : String) :
    written stream (line stream s) = s ++ "\n" := by
  simp [written, line]

theorem written_line_of_ne {stream other : StreamName} (h : other ≠ stream) (s : String) :
    written stream (line other s) = "" := by
  simp [written, line, h]

theorem written_flatMap_line (stream : StreamName) (lines : List String) :
    written stream (lines.flatMap (line stream)) = text lines := by
  induction lines with
  | nil => rfl
  | cons s lines ih => rw [List.flatMap_cons, written_append, written_line, ih, text_cons]

theorem written_flatMap_line_of_ne {stream other : StreamName} (h : other ≠ stream)
    (lines : List String) : written stream (lines.flatMap (line other)) = "" := by
  induction lines with
  | nil => rfl
  | cons s lines ih =>
    rw [List.flatMap_cons, written_append, written_line_of_ne h, ih]
    rfl

theorem written_map_log (stream : StreamName) (records : List Log.Record) :
    written stream (records.map .log) = "" := by
  induction records with
  | nil => rfl
  | cons record records ih => exact ih

theorem written_map_call (stream : StreamName) (calls : List Hci.CallRecord) :
    written stream (calls.map .call) = "" := by
  induction calls with
  | nil => rfl
  | cons call calls ih => exact ih

@[simp] theorem calls_append (xs ys : List Effect) : calls (xs ++ ys) = calls xs ++ calls ys :=
  List.filterMap_append

@[simp] theorem calls_line (stream : StreamName) (s : String) : calls (line stream s) = [] := rfl

theorem calls_map_call (records : List Hci.CallRecord) : calls (records.map .call) = records := by
  induction records with
  | nil => rfl
  | cons record records ih => exact congrArg (record :: ·) ih

theorem calls_map_log (records : List Log.Record) : calls (records.map .log) = [] := by
  induction records with
  | nil => rfl
  | cons record records ih => exact ih

end Effect

namespace StreamLimits

-- No write is refused, and a write leaves no limits where there were none.
theorem cut_unlimited (reason : String) (effects : List Effect) :
    (StreamLimits.mk none none reason).cut effects = (effects, false) := by
  induction effects with
  | nil => rfl
  | cons effect effects ih =>
    cases effect with
    | write stream text =>
      have hleft : (StreamLimits.mk none none reason).left? stream ≠ some 0 := by
        cases stream <;> simp [left?]
      have hbehind : (StreamLimits.mk none none reason).behind stream text =
          ⟨none, none, reason⟩ := by
        cases stream <;> rfl
      rw [cut, if_neg hleft, hbehind, ih]
    | log record => rw [cut, ih]; simp
    | openSource config => rw [cut, ih]; simp
    | call record => rw [cut, ih]; simp

end StreamLimits

theorem Run.limited_unlimited (reason : String) (r : Run) : r.limited ⟨none, none, reason⟩ = r := by
  rw [Run.limited, StreamLimits.cut_unlimited]

/-! ## Requests to scan -/

/-- Closing records come between the last packets, and write nothing. -/
theorem ScanRequest.written_run (r : ScanRequest) (w : Surroundings) {packets : List Bytes}
    (hopen : (w.source r.source).result = .ok packets) (stream : StreamName) :
    Effect.written stream (r.run w).effects =
      Effect.written stream (w.source r.source).effects ++
        Effect.written stream (Scan.run r.settings (w.events 0 packets)) := by
  have hrun : r.run w = .after (.openSource r.source :: (w.source r.source).effects)
      ⟨((Scan.steps r.settings (w.events 0 packets)).take
          ((Scan.steps r.settings (w.events 0 packets)).length
            - (w.source r.source).waiting)).flatten
        ++ (w.source r.source).closing.map .log
        ++ ((Scan.steps r.settings (w.events 0 packets)).drop
          ((Scan.steps r.settings (w.events 0 packets)).length
            - (w.source r.source).waiting)).flatten, .ok ()⟩ := by
    rw [ScanRequest.run]
    simp only [hopen]
  rw [hrun, Run.after, Scan.run]
  change Effect.written stream ((w.source r.source).effects ++ (_ ++ _ ++ _)) = _
  rw [Effect.written_append, Effect.written_append, Effect.written_append, Effect.written_map_log,
    String.append_empty, ← Effect.written_append, ← List.flatten_append, List.take_append_drop]

theorem ScanRequest.result_run (r : ScanRequest) (w : Surroundings) {packets : List Bytes}
    (hopen : (w.source r.source).result = .ok packets) : (r.run w).result = .ok () := by
  rw [ScanRequest.run]
  simp only [hopen]
  rfl

theorem Surroundings.packets_events (w : Surroundings) (n : Nat) (packets : List Bytes) :
    (w.events n packets).map ScanEvent.packet = packets := by
  induction packets generalizing n with
  | nil => rfl
  | cons packet rest ih => rw [Surroundings.events, List.map_cons, ih]

theorem Surroundings.events_congr {w w' : Surroundings} (h : w.times = w'.times) (n : Nat)
    (packets : List Bytes) : w.events n packets = w'.events n packets := by
  induction packets generalizing n with
  | nil => rfl
  | cons packet rest ih => rw [Surroundings.events, Surroundings.events, h, ih]

/-! ## Requests to encode -/

/-- Handing data to a controller writes nothing. -/
theorem Transmission.written_run (t : Transmission) (encoded : String) (kernel : Hci.Kernel)
    (stream : StreamName) : Effect.written stream (t.run encoded kernel).effects = "" := by
  rw [Transmission.run]
  cases t.packets encoded with
  | error e => rfl
  | ok packets =>
    dsimp only
    rw [Effect.written_append, Effect.written_map_call, Effect.written_map_log]
    rfl

namespace EncodeRequest

variable {r : EncodeRequest}

theorem run_of_error {e : EncodeError} (h : r.beacon.tryEncode = .error e) (kernel : Hci.Kernel) :
    r.run kernel = ⟨[], .error (.encode e)⟩ := by
  rw [run, h]
  rfl

theorem run_of_ok {text : String} (h : r.beacon.tryEncode = .ok text) (kernel : Hci.Kernel) :
    r.run kernel = .after (Effect.line .out text)
      (match r.transmission with
        | none => .done
        | some t => t.run text kernel) := by
  rewrite [run, h]
  rfl

theorem written_run_of_ok {text : String} (h : r.beacon.tryEncode = .ok text)
    (kernel : Hci.Kernel) : Effect.written .out (r.run kernel).effects = text ++ "\n" := by
  rw [run_of_ok h, Run.after, Effect.written_append, Effect.written_line]
  cases r.transmission with
  | none => exact String.append_empty
  | some t =>
    dsimp only
    rw [t.written_run, String.append_empty]

theorem tryEncode_of_run {kernel : Hci.Kernel} (h : (r.run kernel).result = .ok ()) :
    ∃ text, r.beacon.tryEncode = .ok text ∧
      Effect.written .out (r.run kernel).effects = text ++ "\n" := by
  cases hencode : r.beacon.tryEncode with
  | error e =>
    rw [run_of_error hencode] at h
    cases h
  | ok text => exact ⟨text, rfl, written_run_of_ok hencode kernel⟩

end EncodeRequest

/-! ## Requests to decode -/

namespace SensorTagRequest

/-- The line of a reading, if there is one. -/
def shown (r : SensorTagRequest) (reading : SensorTag.Reading) : Except RunError String :=
  match reading.line? r.measurement r.firmware with
  | some line => .ok line
  | none => .error (.emptyReading r.sensor)

/-- The line of what is decoded with the calibration of a request, or why there is none. -/
def lineOf (r : SensorTagRequest)
    (decoded : Option SensorTag.Calibration → Except DecodeError SensorTag.Reading) :
    Except RunError String :=
  match r.readCalibration with
  | .error e => .error (.decode e)
  | .ok calibration =>
    match decoded calibration with
    | .error e => .error (.decode e)
    | .ok reading => r.shown reading

theorem lineOf_pieces (r : SensorTagRequest) (pieces : List String)
    (decoded : Option SensorTag.Calibration → Except DecodeError SensorTag.Reading) :
    ({ r with pieces := pieces } : SensorTagRequest).lineOf decoded = r.lineOf decoded := rfl

/-- The line that is asked for, or why there is none. -/
def line (r : SensorTagRequest) : Except RunError String :=
  r.lineOf (SensorTag.decode r.sensor r.value r.firmware)

/-- What is written for a line, or for none. -/
def lineText : Except RunError String → String
  | .ok line => line ++ "\n"
  | .error _ => ""

/-- Log records apart, all that a request does is to write its line, or to fail. -/
theorem run_eq (r : SensorTagRequest) : ∃ records : List Log.Record,
    r.run = .after (records.map .log)
      (match r.line with
        | .ok line => ⟨Effect.line .out line, .ok ()⟩
        | .error e => .fail e) := by
  rw [run, line, lineOf]
  cases r.readCalibration with
  | error e => exact ⟨[], rfl⟩
  | ok calibration =>
    have hreceived : (SensorTag.receive r.sensor r.value r.firmware calibration).value =
        SensorTag.decode r.sensor r.value r.firmware calibration := rfl
    dsimp only
    rw [hreceived]
    cases SensorTag.decode r.sensor r.value r.firmware calibration with
    | error e => exact ⟨(SensorTag.receive r.sensor r.value r.firmware calibration).log, rfl⟩
    | ok reading =>
      have hprinted : (reading.print r.measurement r.firmware).value =
          reading.line? r.measurement r.firmware := rfl
      refine ⟨(SensorTag.receive r.sensor r.value r.firmware calibration).log ++
        (reading.print r.measurement r.firmware).log, ?_⟩
      dsimp only
      rw [hprinted, shown, List.map_append, Run.after, Run.after, Run.after, List.append_assoc]
      cases reading.line? r.measurement r.firmware <;> rfl

theorem result_run (r : SensorTagRequest) : r.run.result = r.line.map fun _ ↦ () := by
  obtain ⟨records, hrun⟩ := r.run_eq
  rw [hrun]
  cases r.line <;> rfl

theorem written_run (r : SensorTagRequest) (stream : StreamName) :
    Effect.written stream r.run.effects = if stream = .out then lineText r.line else "" := by
  obtain ⟨records, hrun⟩ := r.run_eq
  rw [hrun, Run.after, Effect.written_append, Effect.written_map_log, String.empty_append]
  cases r.line with
  | error e => simp [Run.fail, lineText]
  | ok line =>
    split_ifs with hstream
    · rw [hstream]
      exact Effect.written_line .out line
    · exact Effect.written_line_of_ne (Ne.symm hstream) line

end SensorTagRequest

end BleBeacon
