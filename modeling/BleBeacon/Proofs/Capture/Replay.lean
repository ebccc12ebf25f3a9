import Mathlib
import BleBeacon.Program
import BleBeacon.Proofs.Capture.Records

/-!
# Reading whole captures

Behind its header a capture is a list of records and torn bytes, in exactly one way.  The reader
gives these records and then says how the torn bytes end, and a replay delivers their packets.  What
is cut off at the end of a capture takes packets away from the end of its replay only.
-/

namespace BleBeacon.Capture

/-! ## The file header -/

/-- Bytes that start with the file header of a datalink. -/
structure Headed (bytes : Bytes) (datalink : Datalink) : Prop where
  length : headerLength ≤ bytes.length
  magic : bytes.take 8 = magic
  version : Bytes.beNat ((bytes.drop 8).take 4) = version
  code : Bytes.beNat ((bytes.drop 12).take 4) = datalink.code

namespace Datalink

theorem ofCode?_eq_some_iff {code : Nat} {datalink : Datalink} :
    ofCode? code = some datalink ↔ code = datalink.code := by
  constructor
  · intro h
    rw [ofCode?] at h
    have hcode := List.find?_some h
    exact (eq_of_beq hcode).symm
  · rintro rfl
    cases datalink <;> rfl

theorem exists_code_iff {code : Nat} :
    (∃ datalink : Datalink, code = datalink.code) ↔ code = 1001 ∨ code = 1002 := by
  constructor
  · rintro ⟨datalink, rfl⟩
    cases datalink
    · exact .inl rfl
    · exact .inr rfl
  · rintro (rfl | rfl)
    · exact ⟨.h1, rfl⟩
    · exact ⟨.h4, rfl⟩

end Datalink

theorem Reader.start_ofBytes_eq_ok_iff {bytes : Bytes} {reader : Reader} :
    Reader.start (.ofBytes bytes) = .ok reader ↔
      Headed bytes reader.datalink ∧ reader.stream = .ofBytes (bytes.drop headerLength) := by
  have hmagic : (bytes.take headerLength).take 8 = bytes.take 8 := by
    rw [List.take_take]
    rfl
  have hversion : ((bytes.take headerLength).drop 8).take 4 = (bytes.drop 8).take 4 := by
    rw [List.drop_take, List.take_take]
    rfl
  have hcode : ((bytes.take headerLength).drop 12).take 4 = (bytes.drop 12).take 4 := by
    rw [List.drop_take, List.take_take]
    rfl
  rw [Reader.start, take_ofBytes]
  constructor
  · intro h
    split_ifs at h with hlength
    dsimp only at h
    rw [hmagic, hversion, hcode] at h
    split_ifs at h with hmagic' hversion'
    split at h
    · cases h
    · rename_i datalink hdatalink
      cases h
      exact ⟨⟨hlength, not_not.mp hmagic', not_not.mp hversion',
        Datalink.ofCode?_eq_some_iff.mp hdatalink⟩, rfl⟩
  · rintro ⟨⟨hlength, hmagic', hversion', hcode'⟩, hstream⟩
    have hdatalink := Datalink.ofCode?_eq_some_iff.mpr hcode'
    rw [if_pos hlength]
    dsimp only
    rw [hmagic, hversion, hcode, if_neg (not_not.mpr hmagic'), if_neg (not_not.mpr hversion'),
      hdatalink]
    dsimp only
    rw [← hstream]

/-! ## What stands behind the header -/

/-- Bytes that are some records, one after another, and torn bytes behind them. -/
structure Content (bytes : Bytes) (records : List Record) (tail : Bytes) : Prop where
  fits : ∀ r ∈ records, r.Fits
  torn : Torn tail
  eq : bytes = records.flatMap Record.serialize ++ tail

-- By induction on the length: a record takes away at least its fixed part.
theorem exists_content (bytes : Bytes) : ∃ records tail, Content bytes records tail := by
  induction hlength : bytes.length using Nat.strong_induction_on generalizing bytes with
  | _ length ih =>
    by_cases htorn : Torn bytes
    · exact ⟨[], bytes, ⟨fun _ h ↦ absurd h List.not_mem_nil, htorn, rfl⟩⟩
    · simp only [Torn, not_forall, ne_eq, not_not] at htorn
      obtain ⟨r, rest, hfits, heq⟩ := htorn
      have hshort : rest.length < length := by
        rw [← hlength, heq, List.length_append, r.length_serialize, recordHeaderLength]
        omega
      obtain ⟨records, tail, hcontent⟩ := ih rest.length hshort rest rfl
      refine ⟨r :: records, tail, ⟨List.forall_mem_cons.mpr ⟨hfits, hcontent.fits⟩,
        hcontent.torn, ?_⟩⟩
      rw [List.flatMap_cons, List.append_assoc, ← hcontent.eq, heq]

namespace Reader

/-- What the reader says when it is called some times. -/
def answers : Nat → Reader → List (Except ReadError (Option Record))
  | 0, _ => []
  | n + 1, r => r.next.1 :: answers n r.next.2

theorem answers_content (datalink : Datalink) {bytes : Bytes} {records : List Record}
    {tail : Bytes} (h : Content bytes records tail) :
    (Reader.mk datalink (.ofBytes bytes)).answers (records.length + 1) =
      records.map (fun r ↦ .ok (some r)) ++ [endOf tail] := by
  obtain ⟨hfits, htorn, rfl⟩ := h
  induction records with
  | nil =>
    rw [answers, List.flatMap_nil, List.nil_append, next_torn datalink htorn]
    rfl
  | cons r records ih =>
    obtain ⟨hr, hrecords⟩ := List.forall_mem_cons.mp hfits
    rw [answers, List.flatMap_cons, List.append_assoc, next_serialize datalink hr, List.length_cons,
      ih hrecords]
    rfl

theorem records_of_next {r r' : Reader} {record : Record} (h : r.next = (.ok (some record), r')) :
    r.records.1 = record :: r'.records.1 := by
  rw [records]
  split
  · rename_i hnext
    rw [h] at hnext
    cases hnext
  · rename_i hnext
    rw [h] at hnext
    cases hnext
  · rename_i hnext
    rw [h] at hnext
    cases hnext
    rfl

theorem records_append (datalink : Datalink) {front : List Record} (h : ∀ r ∈ front, r.Fits)
    (rest : Bytes) :
    (Reader.mk datalink (.ofBytes (front.flatMap Record.serialize ++ rest))).records.1 =
      front ++ (Reader.mk datalink (.ofBytes rest)).records.1 := by
  induction front with
  | nil => rfl
  | cons r front ih =>
    obtain ⟨hr, hfront⟩ := List.forall_mem_cons.mp h
    rw [List.flatMap_cons, List.append_assoc, records_of_next (next_serialize datalink hr _),
      ih hfront, List.cons_append]

theorem records_torn (datalink : Datalink) {bytes : Bytes} (h : Torn bytes) :
    (Reader.mk datalink (.ofBytes bytes)).records.1 = [] := by
  have hanswer := next_torn datalink h
  rw [records]
  split
  · rfl
  · rfl
  · rename_i hnext
    rw [hnext, endOf] at hanswer
    split_ifs at hanswer
    cases hanswer

theorem records_content (datalink : Datalink) {bytes : Bytes} {records : List Record}
    {tail : Bytes} (h : Content bytes records tail) :
    (Reader.mk datalink (.ofBytes bytes)).records.1 = records := by
  rw [h.eq, records_append datalink h.fits, records_torn datalink h.torn, List.append_nil]

end Reader

/-! ## Replays -/

theorem result_ofCapture (path : String) {bytes : Bytes} {reader : Reader}
    (h : Reader.start (.ofBytes bytes) = .ok reader) :
    (Opening.ofCapture path (.ofBytes bytes)).result =
      .ok (reader.records.1.map reader.packet) := by
  simp only [Opening.ofCapture, replay, h]
  rfl

theorem ofFile_file (errorText : Nat → String) (path : String) (bytes : Bytes) :
    Opening.ofFile errorText path (.ok (.file bytes)) = .ofCapture path (.ofBytes bytes) :=
  rfl

theorem reader_eq {bytes : Bytes} {reader : Reader}
    (h : Reader.start (.ofBytes bytes) = .ok reader) :
    reader = ⟨reader.datalink, .ofBytes (bytes.drop headerLength)⟩ := by
  rw [← (Reader.start_ofBytes_eq_ok_iff.mp h).2]

-- The records of what is left stand at the front of all records, as they are read in the same way.
theorem records_prefix_of_take (datalink : Datalink) (bytes : Bytes) (n : Nat) :
    (Reader.mk datalink (.ofBytes (bytes.take n))).records.1 <+:
      (Reader.mk datalink (.ofBytes bytes)).records.1 := by
  obtain ⟨records, tail, hcontent⟩ := exists_content (bytes.take n)
  have hbytes : bytes = records.flatMap Record.serialize ++ (tail ++ bytes.drop n) := by
    rw [← List.append_assoc, ← hcontent.eq, List.take_append_drop]
  rw [Reader.records_content datalink hcontent, hbytes,
    Reader.records_append datalink hcontent.fits]
  exact List.prefix_append ..

theorem start_take {bytes : Bytes} {reader : Reader}
    (h : Reader.start (.ofBytes bytes) = .ok reader) {n : Nat} (hn : headerLength ≤ n) :
    Reader.start (.ofBytes (bytes.take n)) =
      .ok ⟨reader.datalink, .ofBytes ((bytes.take n).drop headerLength)⟩ := by
  obtain ⟨⟨hlength, hmagic, hversion, hcode⟩, -⟩ := Reader.start_ofBytes_eq_ok_iff.mp h
  rw [headerLength] at hn
  refine Reader.start_ofBytes_eq_ok_iff.mpr ⟨⟨?_, ?_, ?_, ?_⟩, rfl⟩
  · rw [List.length_take]
    exact le_min hn hlength
  · rw [List.take_take, min_eq_left (by omega), hmagic]
  · rw [List.drop_take, List.take_take, min_eq_left (by omega), hversion]
  · rw [List.drop_take, List.take_take, min_eq_left (by omega), hcode]

/-- A capture is accepted by its file header alone.  Behind an accepted header the reader undoes the
writing of records: it gives any records that were written, all of them and in their order, and then
the clean end or what is wrong with the bytes behind them.  A replay delivers their packets, and one
of a capture that was cut short behind its header delivers the first of them. -/
theorem capture_readsBack (bytes : Bytes) :
    ((∃ reader, Reader.start (.ofBytes bytes) = .ok reader) ↔
      16 ≤ bytes.length ∧ bytes.take 8 = [0x62, 0x74, 0x73, 0x6E, 0x6F, 0x6F, 0x70, 0x00] ∧
        Bytes.beNat ((bytes.drop 8).take 4) = 1 ∧
        (Bytes.beNat ((bytes.drop 12).take 4) = 1001 ∨
          Bytes.beNat ((bytes.drop 12).take 4) = 1002)) ∧
    ∀ reader, Reader.start (.ofBytes bytes) = .ok reader →
      reader.datalink.code = Bytes.beNat ((bytes.drop 12).take 4) ∧
      (∃ records tail, Content (bytes.drop 16) records tail) ∧
      (∀ records tail, Content (bytes.drop 16) records tail →
        reader.answers (records.length + 1) = records.map (fun r ↦ .ok (some r)) ++
            [if tail = [] then .ok none else .error (.fault (faultOf tail))] ∧
          (ReadError.fault (faultOf tail)).toScanError =
            .invalidCapture (faultOf tail).message ∧
          ∀ errorText path, (Opening.ofFile errorText path (.ok (.file bytes))).result =
            .ok (records.map reader.packet)) ∧
      ∀ n, 16 ≤ n → ∀ errorText path, ∃ whole cut,
        (Opening.ofFile errorText path (.ok (.file bytes))).result = .ok whole ∧
          (Opening.ofFile errorText path (.ok (.file (bytes.take n)))).result = .ok cut ∧
          cut <+: whole := by
  constructor
  · rw [← Datalink.exists_code_iff]
    constructor
    · rintro ⟨reader, h⟩
      obtain ⟨⟨hlength, hmagic, hversion, hcode⟩, -⟩ := Reader.start_ofBytes_eq_ok_iff.mp h
      exact ⟨hlength, hmagic, hversion, reader.datalink, hcode⟩
    · rintro ⟨hlength, hmagic, hversion, datalink, hcode⟩
      exact ⟨⟨datalink, _⟩,
        Reader.start_ofBytes_eq_ok_iff.mpr ⟨⟨hlength, hmagic, hversion, hcode⟩, rfl⟩⟩
  · intro reader h
    have hreader := reader_eq h
    refine ⟨(Reader.start_ofBytes_eq_ok_iff.mp h).1.code.symm, exists_content _, ?_, ?_⟩
    · intro records tail hcontent
      have hanswers := Reader.answers_content reader.datalink hcontent
      have hrecords := Reader.records_content reader.datalink hcontent
      rw [← headerLength, ← hreader] at hanswers hrecords
      refine ⟨hanswers, rfl, ?_⟩
      intro errorText path
      rw [ofFile_file, result_ofCapture path h, hrecords]
    · intro n hn errorText path
      refine ⟨_, _, result_ofCapture path h, result_ofCapture path (start_take h hn), ?_⟩
      rw [hreader, List.drop_take]
      exact (records_prefix_of_take reader.datalink _ _).map _

/-- An H1 capture with an event, a command without data and the start of a third record. -/
def cutCapture : Bytes :=
  header .h1 ++ (Record.serialize ⟨0x103, 3, 0, -1, [0x3E, 0x00]⟩ ++
    (Record.serialize ⟨0, 2, 7, 0x00E03AB44A676000, []⟩ ++ [0x00, 0x00]))

def noErrorText : Nat → String := fun _ ↦ "Unknown error"

theorem cutCapture_readsBack :
    Reader.start (.ofBytes cutCapture) = .ok ⟨.h1, .ofBytes (cutCapture.drop 16)⟩ ∧
    Content (cutCapture.drop 16) [⟨0x103, 3, 0, -1, [0x3E, 0x00]⟩,
      ⟨0, 2, 7, 0x00E03AB44A676000, []⟩] [0x00, 0x00] ∧
    (Reader.mk .h1 (.ofBytes (cutCapture.drop 16))).answers 3 =
      [.ok (some ⟨0x103, 3, 0, -1, [0x3E, 0x00]⟩), .ok (some ⟨0, 2, 7, 0x00E03AB44A676000, []⟩),
        .error (.fault .recordHeaderTruncated)] ∧
    (Opening.ofFile noErrorText "scan.log" (.ok (.file cutCapture))).result =
      .ok [[0x04, 0x3E, 0x00], [0x01]] ∧
    ∃ whole cut,
      (Opening.ofFile noErrorText "scan.log" (.ok (.file cutCapture))).result =
        .ok whole ∧
      (Opening.ofFile noErrorText "scan.log" (.ok (.file (cutCapture.take 45)))).result =
        .ok cut ∧
      cut <+: whole := by
  have hstart : Reader.start (.ofBytes cutCapture) =
      .ok ⟨.h1, .ofBytes (cutCapture.drop 16)⟩ := by decide
  have hcontent : Content (cutCapture.drop 16) [⟨0x103, 3, 0, -1, [0x3E, 0x00]⟩,
      ⟨0, 2, 7, 0x00E03AB44A676000, []⟩] [0x00, 0x00] :=
    ⟨by decide, by decide, by decide⟩
  obtain ⟨-, -, hreads, hcut⟩ := (capture_readsBack cutCapture).2 _ hstart
  obtain ⟨hanswers, -, hpackets⟩ := hreads _ _ hcontent
  exact ⟨hstart, hcontent, hanswers, hpackets noErrorText "scan.log",
    hcut 45 (by decide) noErrorText "scan.log"⟩

end BleBeacon.Capture
