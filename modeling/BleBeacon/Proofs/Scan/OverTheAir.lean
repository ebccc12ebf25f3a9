import Mathlib
import BleBeacon.Proofs.Beacon.OneFormat
import BleBeacon.Proofs.Beacon.Refusal
import BleBeacon.Proofs.Beacon.UrlScheme
import BleBeacon.Proofs.Observation
import BleBeacon.Proofs.Report.Parsing
import BleBeacon.Proofs.Scan.Unthrottled
import BleBeacon.Proofs.Text.Lowercase

/-!
# From a request to encode to a line of a scan

What a request to encode writes can be sent, received and scanned: the scan writes one line, and all
that was asked for stands in it.
-/

namespace BleBeacon

/-! ## Texts spelled out -/

/-- The two digits of a byte, as the sixteen that are given write it. -/
def spelledByte (sixteen : String) (b : UInt8) : List Char :=
  [sixteen.toList.getD (b.toNat / 16) '?', sixteen.toList.getD (b.toNat % 16) '?']

/-- Pairs of digits with colons between them. -/
def spelledAddress (bytes : Bytes) : String :=
  String.ofList ([':'].intercalate (bytes.map (spelledByte "0123456789ABCDEF")))

/-- Groups of 8, 4, 4, 4 and 12 digits with hyphens between them. -/
def spelledUuid (bytes : Bytes) : String :=
  String.ofList (['-'].intercalate
    ([bytes.take 4, (bytes.drop 4).take 2, (bytes.drop 6).take 2, (bytes.drop 8).take 2,
      bytes.drop 10].map fun group ↦ group.flatMap (spelledByte "0123456789abcdef")))

/-- A whole number, marked by an `i`. -/
def spelledInteger (n : Int) : String := toString n ++ "i"

/-- A text between quotes, with a backslash in front of each quote and each backslash in it. -/
def spelledText (s : String) : String :=
  "\"" ++ String.ofList (s.toList.flatMap fun c ↦ if c = '\\' ∨ c = '"' then ['\\', c] else [c]) ++
    "\""

theorem digits_eq_spelledByte (digit : Nat → Char) (sixteen : String)
    (h : ∀ n : Fin 16, digit n = sixteen.toList.getD n '?') (b : UInt8) :
    [digit (b.toNat / 16), digit (b.toNat % 16)] = spelledByte sixteen b := by
  have hhigh : b.toNat / 16 < 16 := by
    have hb := b.toNat_lt
    omega
  rw [spelledByte, h ⟨_, hhigh⟩, h ⟨_, Nat.mod_lt _ (by decide)⟩]

theorem byteDigits_eq_spelledByte (b : UInt8) :
    Hex.byteDigits b = spelledByte "0123456789abcdef" b :=
  digits_eq_spelledByte Hex.digit _ (by decide) b

theorem upperPair_eq_spelledByte (b : UInt8) :
    DeviceAddress.upperPair b = spelledByte "0123456789ABCDEF" b :=
  digits_eq_spelledByte (fun n ↦ (Hex.digit n).toUpper) _ (by decide) b

theorem DeviceAddress.text_eq_spelledAddress (a : DeviceAddress) :
    a.text = spelledAddress a.bytes := by
  rw [text, chars, funext upperPair_eq_spelledByte, spelledAddress]

theorem Uuid.text_eq_spelledUuid (u : Uuid) : u.text = spelledUuid u.bytes := by
  have hgroup : ∀ group : Bytes,
      group.flatMap (spelledByte "0123456789abcdef") = Hex.digits group := by
    intro group
    rw [← funext byteDigits_eq_spelledByte, Hex.digits]
  rw [text, chars, spelledUuid]
  simp only [hgroup, List.map_cons, List.map_nil, Hex.digits_take, Hex.digits_drop,
    List.intercalate_cons_cons, List.intercalate_singleton, List.append_assoc, List.cons_append,
    List.nil_append, Nat.reduceMul]

theorem Line.render_text (s : String) : (FieldValue.text s).render = spelledText s := by
  have hescape : escapeChar = fun c ↦ if c = '\\' ∨ c = '"' then ['\\', c] else [c] := by
    funext c
    rw [escapeChar.eq_def]
    split
    · rfl
    · rfl
    · rename_i hbackslash hquote
      rw [if_neg (not_or.mpr ⟨hbackslash, hquote⟩)]
  rw [FieldValue.render, quote, hescape, spelledText]

/-! ## Requested frames -/

namespace EncodeRequest

open Observation Line

/-- The tags of what is requested, as it is received from `a`. -/
def receivedTags (r : EncodeRequest) (a : DeviceAddress) : List (String × String) :=
  let address := ("address", spelledAddress a.bytes)
  match r.frame with
  | .uid _ _ => [address, ("frame", "uid"), ("kind", "eddystone")]
  | .url _ => [address, ("frame", "url"), ("kind", "eddystone")]
  | .iBeacon _ => [address, ("kind", "ibeacon")]

/-- The flags that are requested, one bit each.  Three of them are set unless the request clears
them. -/
def flagsNumber (r : EncodeRequest) : Nat :=
  (r.overrides.leLimited.getD false).toNat + 2 * (r.overrides.leGeneral.getD true).toNat +
    4 * (r.overrides.brEdrSupported.getD false).toNat +
    8 * (r.overrides.leBrController.getD true).toNat + 16 * (r.overrides.leBrHost.getD true).toNat

/-- The fields of what is requested, as it is received with the strength `rssi`. -/
def receivedFields (r : EncodeRequest) (rssi : Int8) : List (String × String) :=
  match r.frame with
  | .uid namespaceId instanceId =>
    [("flags", spelledInteger r.flagsNumber), ("instance", spelledText instanceId.toLower),
      ("namespace", spelledText namespaceId.toLower), ("rssi", spelledInteger rssi.toInt),
      ("tx_power", spelledInteger r.txPower.toInt)]
  | .url text =>
    [("flags", spelledInteger r.flagsNumber), ("rssi", spelledInteger rssi.toInt),
      ("tx_power", spelledInteger r.txPower.toInt), ("url", spelledText text)]
  | .iBeacon beacon =>
    [("flags", spelledInteger r.flagsNumber), ("major", spelledInteger beacon.major.toNat),
      ("minor", spelledInteger beacon.minor.toNat), ("rssi", spelledInteger rssi.toInt),
      ("tx_power", spelledInteger r.txPower.toInt),
      ("uuid", spelledText (spelledUuid beacon.uuid.bytes))]

/-- The line of what is requested, as it is received from `a` with the strength `rssi`. -/
def receivedLine (r : EncodeRequest) (measurement : String) (a : DeviceAddress) (rssi : Int8)
    (time : Int) : String :=
  measurement ++ tagsText (r.receivedTags a) ++ " " ++
    ",".intercalate ((r.receivedFields rssi).map fun field ↦ field.1 ++ "=" ++ field.2) ++
    timeText time

end EncodeRequest

/-- A URL is its scheme and what follows, whether or not its scheme has a code. -/
theorem EddystoneFrame.ofUrl_eq (text : String) :
    ∃ scheme body, ofUrl text = .url scheme body ∧ scheme.text ++ body = text := by
  cases hdetect : UrlScheme.detect? text with
  | none => exact ⟨.unknown 0xFF, text, by rw [ofUrl, hdetect], String.empty_append⟩
  | some scheme =>
    obtain ⟨-, body, hbody, hframe⟩ := UrlScheme.exists_body_of_detect? hdetect
    exact ⟨scheme, body, hframe, hbody⟩

theorem FrameRequest.lossless_frame {f : FrameRequest}
    (h : ∀ text, f = .url text → ∀ c ∈ text.toList, Url.Literal c) : f.frame.Lossless := by
  cases f with
  | uid namespaceId instanceId =>
    exact ⟨not_isUpper_of_mem_lowercase namespaceId, not_isUpper_of_mem_lowercase instanceId⟩
  | url text =>
    obtain ⟨scheme, body, hframe, htext⟩ := EddystoneFrame.ofUrl_eq text
    rw [frame, hframe]
    exact Url.literal_of_append_eq htext (h text rfl)
  | iBeacon beacon => trivial

theorem EncodeRequest.onAir_beacon {r : EncodeRequest}
    (h : ∀ text, r.frame = .url text → ∀ c ∈ text.toList, Url.Literal c) :
    r.beacon.onAir = r.beacon :=
  (Beacon.onAir_eq_self_iff rfl rfl).mpr (FrameRequest.lossless_frame h)

theorem EncodeRequest.toNat_flags_beacon (r : EncodeRequest) :
    r.beacon.flags.toByte.toNat = r.flagsNumber := by
  rcases r with ⟨frame, txPower, ⟨limited, general, supported, controller, host⟩, transmission⟩
  refine UInt8.toNat_ofNat_of_lt' ?_
  change (limited.getD false).toNat + 2 * (general.getD true).toNat +
    4 * (supported.getD false).toNat + 8 * (controller.getD true).toNat +
      16 * (host.getD true).toNat < 256
  have hbit : ∀ bit : Bool, bit.toNat ≤ 1 := Bool.toNat_le
  have h₁ := hbit (limited.getD false)
  have h₂ := hbit (general.getD true)
  have h₃ := hbit (supported.getD false)
  have h₄ := hbit (controller.getD true)
  have h₅ := hbit (host.getD true)
  omega

namespace EncodeRequest

variable {r : EncodeRequest}

theorem receivedTags_eq (r : EncodeRequest) (a : DeviceAddress) :
    r.receivedTags a = ("address", a.text) ::
      (r.beacon.frame.innerTags ++ [("kind", r.beacon.kind.name)]) := by
  rw [a.text_eq_spelledAddress]
  rcases r with ⟨frame, txPower, overrides, transmission⟩
  cases frame with
  | uid namespaceId instanceId => rfl
  | url text =>
    obtain ⟨scheme, body, hframe, -⟩ := EddystoneFrame.ofUrl_eq text
    simp only [beacon, Beacon.ofFrame, Beacon.kind, FrameRequest.frame, hframe]
    rfl
  | iBeacon beacon => rfl

-- What is encoded has digits where capitals may stand, so their lower case is that of ASCII.
theorem receivedFields_eq (h : r.beacon.frame.Encodable) (rssi : Int8) :
    r.receivedFields rssi =
      (("flags", .integer r.beacon.flags.toByte.toNat) :: (r.beacon.frame.innerFields ++
        ("rssi", .integer rssi.toInt) :: ("tx_power", .integer r.beacon.txPower.toInt) ::
          r.beacon.frame.lastFields)).map fun field ↦ (field.1, field.2.render) := by
  rw [r.toNat_flags_beacon]
  rcases r with ⟨frame, txPower, overrides, transmission⟩
  cases frame with
  | uid namespaceId instanceId =>
    obtain ⟨hnamespace, hinstance⟩ := h
    have hfields : (FrameRequest.uid namespaceId instanceId).frame.innerFields =
        [("instance", .text instanceId.toLower), ("namespace", .text namespaceId.toLower)] := by
      rw [← lowercase_eq_toLower hnamespace, ← lowercase_eq_toLower hinstance]
      rfl
    simp only [receivedFields, beacon, Beacon.ofFrame, hfields, ← Line.render_text]
    rfl
  | url text =>
    obtain ⟨scheme, body, hframe, rfl⟩ := EddystoneFrame.ofUrl_eq text
    simp only [receivedFields, beacon, Beacon.ofFrame, FrameRequest.frame, hframe,
      ← Line.render_text]
    rfl
  | iBeacon beacon =>
    simp only [receivedFields, ← Line.render_text, ← beacon.uuid.text_eq_spelledUuid]
    rfl

theorem line_received (h : r.beacon.frame.Encodable) (measurement : String) (a : DeviceAddress)
    (rssi : Int8) (time : Int) :
    Observation.line measurement ⟨{ r.beacon with address := some a, rssi := some rssi }, time⟩ =
      r.receivedLine measurement a rssi time := by
  rw [receivedLine, receivedTags_eq, receivedFields_eq h, List.map_map]
  exact Observation.line_of_received measurement rfl rfl time

end EncodeRequest

/-! ## Scans of one report -/

namespace Scan

variable {s : ScanSettings} {b : Beacon} {d : AdvertisingData} {w : WireReport} {received : Report}

/-- A scan for all formats and all devices writes one line for a report of what carries a beacon,
and has nothing to tell. -/
theorem lines_carries (hselection : s.selection = .all) (haddresses : s.addresses = [])
    (hcarries : d.Carries b) (hmeans : w.Means received) (hpayload : w.payload = d.payload)
    (parameterLength : UInt8) (time : Int) (clock : Nat) :
    eventLines s ⟨WireReport.event parameterLength [w], time, clock⟩ =
        [Observation.line s.measurement
          ⟨{ b.onAir with address := some received.address, rssi := some received.rssi }, time⟩] ∧
      eventComplaints s ⟨WireReport.event parameterLength [w], time, clock⟩ = [] := by
  rw [hmeans.payload] at hpayload
  have hfound : b.kind.recognize received.payload = .ok (some b.onAir) := by
    rw [hpayload]
    exact hcarries.recognize_payload
  have hother : ∀ kind ≠ b.kind, kind.recognize received.payload = .ok none := by
    intro kind hkind
    rw [hpayload]
    exact hcarries.recognize_of_ne hkind
  have hwants : s.Wants received.address := .inl haddresses
  have hline : ∀ kind, reportLine? s time kind received =
      if kind = b.kind then
        some (Observation.line s.measurement
          ⟨{ b.onAir with address := some received.address, rssi := some received.rssi }, time⟩)
      else none := by
    intro kind
    rw [reportLine?, if_pos hwants]
    split_ifs with hkind
    · rw [hkind, hfound]
    · rw [hother kind hkind]
  have hcomplaint : ∀ kind, reportComplaint? s kind received = none := by
    intro kind
    rw [reportComplaint?, if_pos hwants]
    by_cases hkind : kind = b.kind
    · rw [hkind, hfound]
    · rw [hother kind hkind]
  have hparse := parseReports_event parameterLength (show [w].length ≤ 255 by simp)
    (.cons hmeans .nil)
  have hkinds : [BeaconKind.eddystone, .iBeacon].filter (s.selection.Covers ·) =
      [.eddystone, .iBeacon] := by
    rw [hselection]
    rfl
  rw [eventLines, eventComplaints]
  simp only [hparse, hkinds, List.flatMap_cons, List.flatMap_nil, List.filterMap_cons,
    List.filterMap_nil, hline, hcomplaint]
  cases b.kind <;> exact ⟨rfl, rfl⟩

theorem written_run_carries (hselection : s.selection = .all) (hinterval : s.interval = none)
    (haddresses : s.addresses = []) (hcarries : d.Carries b) (hmeans : w.Means received)
    (hpayload : w.payload = d.payload) (parameterLength : UInt8) (time : Int) (clock : Nat) :
    Effect.written .out (run s [⟨WireReport.event parameterLength [w], time, clock⟩]) =
        Observation.line s.measurement
          ⟨{ b.onAir with address := some received.address, rssi := some received.rssi },
            time⟩ ++ "\n" ∧
      Effect.written .err (run s [⟨WireReport.event parameterLength [w], time, clock⟩]) = "" := by
  obtain ⟨hlines, hcomplaints⟩ :=
    lines_carries hselection haddresses hcarries hmeans hpayload parameterLength time clock
  constructor
  · rw [written_run_unthrottled s hinterval, List.flatMap_singleton, linesOn, hlines,
      Effect.text_cons, Effect.text_nil, String.append_empty]
  · rw [written_run_unthrottled s hinterval, List.flatMap_singleton, linesOn, hcomplaints, ite_self]
    rfl

end Scan

/-- What an accepted request to encode prints is received as it was requested.  Its payload, without
the count, in a report from any device, makes a scan for all formats write the line of what was
requested, once.  The format that was not requested finds nothing to tell. -/
theorem scan_of_encodeRequest {r : EncodeRequest} {kernel : Hci.Kernel}
    (haccepted : (r.run kernel).result = .ok ())
    (hliteral : ∀ text, r.frame = .url text → ∀ c ∈ text.toList, Url.Literal c) :
    ∃ text count payload, Effect.written .out (r.run kernel).effects = text ++ "\n" ∧
      Hex.decode text = .ok (count :: payload) ∧ payload.length = 31 ∧
      ∀ (w : WireReport) (received : Report) (parameterLength : UInt8) (time : Int) (clock : Nat)
          (s : ScanSettings),
        w.payload = payload → w.Means received →
        s.selection = .all → s.interval = none → s.addresses = [] →
        Effect.written .out (Scan.run s [⟨WireReport.event parameterLength [w], time, clock⟩]) =
            r.receivedLine s.measurement received.address received.rssi time ++ "\n" ∧
          Effect.written .err (Scan.run s [⟨WireReport.event parameterLength [w], time, clock⟩]) =
            "" := by
  obtain ⟨text, hencode, hwritten⟩ := EncodeRequest.tryEncode_of_run haccepted
  obtain ⟨d, hcarries, hspells⟩ := exists_carries_of_tryEncode hencode
  refine ⟨text, d.count, d.payload, hwritten, hspells.decode_eq, hcarries.length_payload, ?_⟩
  intro w received parameterLength time clock s hpayload hmeans hselection hinterval haddresses
  have hscan := Scan.written_run_carries hselection hinterval haddresses hcarries hmeans hpayload
    parameterLength time clock
  have hencodable := Beacon.exists_tryEncode_iff.mp ⟨text, hencode⟩
  rw [EncodeRequest.onAir_beacon hliteral, EncodeRequest.line_received hencodable] at hscan
  exact hscan

/-- A scan for all formats and devices that tells what is malformed. -/
def openScan : ScanSettings := ⟨.all, "beacon", none, [], true⟩

/-- A request whose text is `text`, and whose payload such a scan hears as `line` when it is sent
from `CA:FE:00:12:AB:0F`, with no complaint. -/
def EncodeRequest.HeardAs (r : EncodeRequest) (text line : String) : Prop :=
  Effect.written .out (r.run .granting).effects = text ++ "\n" ∧
  ∃ count payload, Hex.decode text = .ok (count :: payload) ∧
    ∃ h : payload.length ≤ 255,
      let packet := WireReport.event 43
        [⟨0x03, 0x01, ⟨[0x0F, 0xAB, 0x12, 0x00, 0xFE, 0xCA], rfl⟩, payload, 0xC5, h⟩]
      Effect.written .out (Scan.run openScan [⟨packet, 7, 0⟩]) = line ++ "\n" ∧
        Effect.written .err (Scan.run openScan [⟨packet, 7, 0⟩]) = ""

/-- A URL with the flag for limited discovery. -/
def limitedUrl : EncodeRequest :=
  ⟨.url "https://goo.gl/Aa", -21, ⟨some true, none, none, none, none⟩, none⟩

/-- A UID written in both cases, with one flag more and one less. -/
def mixedCaseUid : EncodeRequest :=
  ⟨.uid "00010203040506070ABC" "0a0B0c0D0e0F", 4, ⟨none, some false, some true, none, none⟩, none⟩

def groupedIBeacon : EncodeRequest :=
  ⟨.iBeacon ⟨⟨⟨[0xE2, 0xC5, 0x6D, 0xB5, 0xDF, 0xFB, 0x48, 0xD2, 0xB0, 0x60, 0xD0, 0xF5, 0xA7, 0x10,
    0x96, 0xE0], rfl⟩⟩, 258, 65534⟩, -59, ⟨none, none, none, none, none⟩, none⟩

theorem scan_of_encodeRequest_eachFrame :
    (limitedUrl.run .granting).result = .ok () ∧
    (∀ text, limitedUrl.frame = .url text → ∀ c ∈ text.toList, Url.Literal c) ∧
    limitedUrl.HeardAs "1702011b0303aafe0f16aafe10eb03676f6f2e676c2f41610000000000000000"
      ("beacon,address=CA:FE:00:12:AB:0F,frame=url,kind=eddystone " ++
        "flags=27i,rssi=-59i,tx_power=-21i,url=\"https://goo.gl/Aa\" 7") ∧
    (mixedCaseUid.run .granting).result = .ok () ∧
    mixedCaseUid.HeardAs "1e02011c0303aafe1716aafe000400010203040506070abc0a0b0c0d0e0f0000"
      ("beacon,address=CA:FE:00:12:AB:0F,frame=uid,kind=eddystone " ++
        "flags=28i,instance=\"0a0b0c0d0e0f\",namespace=\"00010203040506070abc\"," ++
        "rssi=-59i,tx_power=4i 7") ∧
    (groupedIBeacon.run .granting).result = .ok () ∧
    groupedIBeacon.HeardAs "1e02011a1aff4c000215e2c56db5dffb48d2b060d0f5a71096e00102fffec500"
      ("beacon,address=CA:FE:00:12:AB:0F,kind=ibeacon " ++
        "flags=26i,major=258i,minor=65534i,rssi=-59i,tx_power=-59i," ++
        "uuid=\"e2c56db5-dffb-48d2-b060-d0f5a71096e0\" 7") := by
  have hheard : ∀ {r : EncodeRequest} {text line : String}, (r.run .granting).result = .ok () →
      (∀ text, r.frame = .url text → ∀ c ∈ text.toList, Url.Literal c) →
      Effect.written .out (r.run .granting).effects = text ++ "\n" →
      r.receivedLine "beacon" ⟨⟨[0xCA, 0xFE, 0x00, 0x12, 0xAB, 0x0F], rfl⟩⟩ (-59) 7 = line →
      r.HeardAs text line := by
    intro r text line haccepted hliteral hprinted hline
    obtain ⟨text', count, payload, hwritten, hdecode, hlength, hscan⟩ :=
      scan_of_encodeRequest haccepted hliteral
    obtain rfl : text' = text := by
      rw [← String.toList_inj]
      have hsame := congrArg String.toList (hwritten.symm.trans hprinted)
      rw [String.toList_append, String.toList_append] at hsame
      exact List.append_cancel_right hsame
    have hfits : payload.length ≤ 255 := by omega
    obtain ⟨hout, herr⟩ := hscan
      ⟨0x03, 0x01, ⟨[0x0F, 0xAB, 0x12, 0x00, 0xFE, 0xCA], rfl⟩, payload, 0xC5, hfits⟩
      ⟨.nonConnectableUndirected, .randomDevice, ⟨⟨[0xCA, 0xFE, 0x00, 0x12, 0xAB, 0x0F], rfl⟩⟩,
        payload, -59⟩ 43 7 0 openScan rfl
      ⟨.nonConnectableUndirected, .randomDevice, rfl, rfl, rfl⟩ rfl rfl rfl
    rw [← hline]
    exact ⟨hprinted, count, payload, hdecode, hfits, hout, herr⟩
  have hurl : (limitedUrl.run .granting).result = .ok () := by decide +kernel
  have huid : (mixedCaseUid.run .granting).result = .ok () := by decide +kernel
  have hiBeacon : (groupedIBeacon.run .granting).result = .ok () := by decide +kernel
  have hliteral : ∀ text, limitedUrl.frame = .url text → ∀ c ∈ text.toList, Url.Literal c := by
    intro text htext
    cases htext
    exact (Url.decode_encode_eq_self_iff _).mp (by decide +kernel)
  refine ⟨hurl, hliteral, hheard hurl hliteral (by decide +kernel) (by decide +kernel), huid,
    hheard huid ?_ (by decide +kernel) (by decide +kernel), hiBeacon,
    hheard hiBeacon ?_ (by decide +kernel) (by decide +kernel)⟩
  · intro text htext
    cases htext
  · intro text htext
    cases htext

end BleBeacon
