import BleBeacon.Capture.Record

/-!
Reading a capture from a stream, record by record. The end of the stream is clean only between two
records. A read that fails has used up what was left of the stream.
-/

namespace BleBeacon.Capture

inductive ReadError where
  | fault (fault : Fault)
  | io (reason : String)
deriving DecidableEq, Repr

def ReadError.toScanError : ReadError → ScanError
  | fault f => f.toScanError
  | io reason => .io reason

/-- What a stream has still to give, and the failure that stands behind it instead of its end. -/
structure Stream where
  rest : Bytes
  failure : Option String
deriving DecidableEq, Repr

namespace Stream

def ofBytes (bytes : Bytes) : Stream := ⟨bytes, none⟩

-- The next `n` bytes, or why they cannot be had.
def take (s : Stream) (n : Nat) (short : Fault) : Except ReadError Bytes × Stream :=
  if n ≤ s.rest.length then (.ok (s.rest.take n), { s with rest := s.rest.drop n })
  else
    match s.failure with
    | some reason => (.error (.io reason), { s with rest := [] })
    | none => (.error (.fault short), { s with rest := [] })

end Stream

structure Reader where
  datalink : Datalink
  stream : Stream
deriving DecidableEq, Repr

namespace Reader

-- Read and check the file header: magic, then version, then datalink.
def start (stream : Stream) : Except ReadError Reader :=
  match stream.take headerLength .headerTruncated with
  | (.error e, _) => .error e
  | (.ok bytes, stream) =>
    let fileVersion := Bytes.beNat ((bytes.drop 8).take 4)
    let code := Bytes.beNat ((bytes.drop 12).take 4)
    if bytes.take 8 ≠ magic then .error (.fault .missingMagic)
    else if fileVersion ≠ version then .error (.fault (.unsupportedVersion fileVersion))
    else
      match Datalink.ofCode? code with
      | none => .error (.fault (.unsupportedDatalink code))
      | some datalink => .ok ⟨datalink, stream⟩

def recordOf (fixed data : Bytes) : Record where
  wireLength := UInt32.ofNat (Bytes.beNat (fixed.take 4))
  flags := UInt32.ofNat (Bytes.beNat ((fixed.drop 8).take 4))
  drops := UInt32.ofNat (Bytes.beNat ((fixed.drop 12).take 4))
  timestamp := (UInt64.ofNat (Bytes.beNat ((fixed.drop 16).take 8))).toInt64
  data := data

/-- The next record, nothing at a clean end, or what is wrong; and the reader behind it. A record
that claims too many bytes has used up its fixed part only. -/
def next (r : Reader) : Except ReadError (Option Record) × Reader :=
  if r.stream.rest = [] then
    match r.stream.failure with
    | some reason => (.error (.io reason), r)
    | none => (.ok none, r)
  else
    match r.stream.take recordHeaderLength .recordHeaderTruncated with
    | (.error e, stream) => (.error e, { r with stream })
    | (.ok fixed, stream) =>
      let included := Bytes.beNat ((fixed.drop 4).take 4)
      if maxRecordLength < included then
        (.error (.fault (.recordTooLong included)), { r with stream })
      else
        match stream.take included .recordDataTruncated with
        | (.error e, stream) => (.error e, { r with stream })
        | (.ok data, stream) => (.ok (some (recordOf fixed data)), { r with stream })

def packet (r : Reader) (record : Record) : Bytes := r.datalink.packet record.flags record.data

def nextPacket (r : Reader) : Except ReadError (Option Bytes) × Reader :=
  match r.next with
  | (.error e, r') => (.error e, r')
  | (.ok none, r') => (.ok none, r')
  | (.ok (some record), r') => (.ok (some (r.packet record)), r')

theorem length_take_rest {s s' : Stream} {n : Nat} {short : Fault} {bytes : Bytes}
    (h : s.take n short = (.ok bytes, s')) : s'.rest.length + n = s.rest.length := by
  unfold Stream.take at h
  split at h
  · cases h
    simp only [List.length_drop]
    omega
  · split at h <;> cases h

theorem next_shortens {r r' : Reader} {record : Record}
    (h : r.next = (.ok (some record), r')) :
    r'.stream.rest.length < r.stream.rest.length := by
  unfold next at h
  split at h
  · split at h <;> cases h
  · split at h
    · cases h
    · rename_i fixed stream hfixed
      have first := length_take_rest hfixed
      simp only [] at h
      split at h
      · cases h
      · split at h
        · cases h
        · rename_i data stream' hdata
          have second := length_take_rest hdata
          cases h
          simp only [recordHeaderLength] at first
          show stream'.rest.length < r.stream.rest.length
          omega

end Reader

inductive Ending where
  | clean
  | failed (error : ReadError)
deriving DecidableEq, Repr

-- All records up to the end or to what cannot be read, and how they end.
def Reader.records (r : Reader) : List Record × Ending :=
  match _h : r.next with
  | (.error e, _) => ([], .failed e)
  | (.ok none, _) => ([], .clean)
  | (.ok (some record), r') =>
    let (rest, ending) := r'.records
    (record :: rest, ending)
termination_by r.stream.rest.length
decreasing_by exact Reader.next_shortens _h

end BleBeacon.Capture
