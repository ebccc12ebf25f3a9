import Mathlib
import BleBeacon.Proofs.Line.OneLine
import BleBeacon.Proofs.SensorTag.Spelling

/-!
# Readings as lines

The line of a reading ends where it should, unless a revision has line feeds of its own, which are
not escaped.  Quotes are, so the revision can be told from its line even then.
-/

namespace BleBeacon

/-! ## Texts at the end of a line -/

namespace Line

/-- A quote in an escaped text has a backslash in front of it. -/
theorem eq_backslash_of_escaped {xs front rest : List Char} {c : Char}
    (h : xs.flatMap escapeChar = front ++ c :: '"' :: rest) : c = '\\' := by
  induction xs generalizing front with
  | nil => simp at h
  | cons d xs ih =>
    have hstart : ∀ rest, xs.flatMap escapeChar ≠ '"' :: rest := by
      intro rest hrest
      cases xs with
      | nil => cases hrest
      | cons e xs => exact escapeChar_append_ne e _ rest hrest
    rw [List.flatMap_cons] at h
    rcases escapeChar_cases d with hd | ⟨-, -, hd⟩ <;> rw [hd] at h
    · match front with
      | [] => exact (List.cons.inj h).1.symm
      | [_] => exact absurd (List.cons.inj (List.cons.inj h).2).2 (hstart rest)
      | _ :: _ :: front => exact ih (List.cons.inj (List.cons.inj h).2).2
    · match front with
      | [] => exact absurd (List.cons.inj h).2 (hstart rest)
      | _ :: front => exact ih (List.cons.inj h).2

theorem eq_nil_of_quote_eq {xs front rest : List Char}
    (h : '=' :: '"' :: xs.flatMap escapeChar = front ++ '=' :: '"' :: rest) : front = [] := by
  match front with
  | [] => rfl
  | [_] => exact absurd (List.cons.inj (List.cons.inj h).2).1 (by decide)
  | _ :: _ :: front =>
    exact absurd (eq_backslash_of_escaped (List.cons.inj (List.cons.inj h).2).2) (by decide)

/-- What stands in quotes at the end of a line, behind an equals sign, starts in one place only. -/
theorem quote_inj {front front' : List Char} {s s' : String}
    (h : front ++ '=' :: (quote s).toList = front' ++ '=' :: (quote s').toList) :
    front = front' ∧ s = s' := by
  have hsplit : ∀ (front : List Char) (s : String), front ++ '=' :: (quote s).toList =
      (front ++ '=' :: '"' :: s.toList.flatMap escapeChar) ++ ['"'] := by
    intro front s
    rw [toList_quote, List.append_assoc]
    rfl
  rw [hsplit, hsplit] at h
  have hfront : front = front' := by
    rcases List.append_eq_append_iff.mp (List.append_cancel_right h) with
      ⟨more, hmore, hquote⟩ | ⟨more, hmore, hquote⟩
    · rw [hmore, eq_nil_of_quote_eq hquote, List.append_nil]
    · rw [hmore, eq_nil_of_quote_eq hquote, List.append_nil]
  rw [hfront, List.append_assoc, List.append_assoc] at h
  have hescaped := (List.cons.inj (List.cons.inj (List.append_cancel_left h)).2).2
  exact ⟨hfront, String.toList_inj.mp (escaped_append_inj hescaped).1⟩

theorem mem_quote_iff {c : Char} (hbackslash : c ≠ '\\') (hquote : c ≠ '"') (s : String) :
    c ∈ (quote s).toList ↔ c ∈ s.toList := by
  have hescape : ∀ d, c ∈ escapeChar d ↔ c = d := by
    intro d
    rcases escapeChar_cases d with hd | ⟨-, -, hd⟩ <;> simp [hd, hbackslash]
  rw [toList_quote]
  simp [List.mem_flatMap, hescape, hquote]

end Line

namespace SensorTag

open Line

/-! ## What is decoded -/

/-- Outcomes that are readings of a sensor, if they are readings. -/
def OnlyOf (sensor : Sensor) (outcome : Except DecodeError Reading) : Prop :=
  ∀ reading, outcome = .ok reading → reading.sensor = sensor

theorem OnlyOf.bind {α : Type} {sensor : Sensor} {outcome : Except DecodeError α}
    {next : α → Except DecodeError Reading} (h : ∀ a, OnlyOf sensor (next a)) :
    OnlyOf sensor (outcome >>= next) := by
  cases outcome with
  | error e =>
    intro reading hok
    cases hok
  | ok a => exact h a

theorem OnlyOf.ok {sensor : Sensor} {reading : Reading} (h : reading.sensor = sensor) :
    OnlyOf sensor (.ok reading) := by
  rintro _ ⟨⟩
  exact h

theorem OnlyOf.error {sensor : Sensor} {e : DecodeError} : OnlyOf sensor (.error e) := by
  rintro _ ⟨⟩

/-- Every sensor gives readings of its own. -/
theorem onlyOf_decodeBytes (sensor : Sensor) (firmware : Firmware)
    (calibration : Option Calibration) (bytes : Bytes) :
    OnlyOf sensor (decodeBytes sensor firmware calibration bytes) := by
  cases sensor with
  | temperature =>
    refine .bind fun ambient ↦ ?_
    cases firmware <;> exact .bind fun object ↦ .ok rfl
  | accelerometer =>
    cases firmware with
    | cc2650 => exact .bind fun x ↦ .bind fun y ↦ .bind fun z ↦ .ok rfl
    | cc2541 =>
      match bytes with
      | [] | [_] | [_, _] => exact .error
      | _ :: _ :: _ :: _ => exact .ok rfl
  | humidity =>
    refine .bind fun raw ↦ ?_
    cases firmware <;> exact .ok rfl
  | magnetometer =>
    cases firmware <;> exact .bind fun x ↦ .bind fun y ↦ .bind fun z ↦ .ok rfl
  | barometer =>
    cases firmware with
    | cc2650 =>
      change OnlyOf .barometer (if 4 < bytes.length then _ else _)
      split_ifs <;> exact .bind fun raw ↦ .ok rfl
    | cc2541 =>
      cases calibration with
      | none => exact .error
      | some c => exact .bind fun temperature ↦ .bind fun raw ↦ .ok rfl
  | gyroscope =>
    refine .bind fun y ↦ .bind fun x ↦ .bind fun z ↦ ?_
    cases firmware <;> exact .ok rfl
  | light => exact .bind fun raw ↦ .ok rfl
  | keys =>
    match bytes with
    | [] => exact .error
    | status :: _ => cases firmware <;> exact .ok rfl
  | firmwareRevision => exact .ok rfl

theorem exists_isValue_of_decode {sensor : Sensor} {value : String} {firmware : Firmware}
    {calibration : Option Calibration} {reading : Reading}
    (h : decode sensor value firmware calibration = .ok reading) :
    ∃ bytes, Hex.IsValue (relevantText sensor firmware value).toList bytes ∧
      decodeBytes sensor firmware calibration bytes = .ok reading := by
  unfold decode at h
  cases hread : Hex.decodeValue (relevantText sensor firmware value) with
  | error e =>
    rw [hread] at h
    cases h
  | ok bytes =>
    rw [hread] at h
    exact ⟨bytes, Hex.spells_clean_iff_isValue.mp (Hex.decode_eq_ok_iff.mp hread), h⟩

theorem mem_byteText_iff (bytes : Bytes) : '\n' ∈ (byteText bytes).toList ↔ 0x0A ∈ bytes := by
  rw [byteText, String.toList_ofList, List.mem_map]
  constructor
  · rintro ⟨b, hb, hchar⟩
    have hvalid : b.toNat.isValidChar := .inl (by have := b.toNat_lt; omega)
    have hten := congrArg Char.toNat hchar
    rw [Char.toNat_ofNat, if_pos hvalid] at hten
    rwa [show (0x0A : UInt8) = b from UInt8.toNat_inj.mp hten.symm]
  · exact fun h ↦ ⟨0x0A, h, rfl⟩

/-! ## What is printed -/

/-- The point of a reading whose line is asked for. -/
def Reading.point (measurement : String) (firmware : Firmware) (r : Reading) : Point :=
  ⟨measurement, .ofList [("firmware", firmware.name), ("sensor", r.sensor.name)],
    .ofList r.pointFields, none⟩

theorem eq_render_of_line? {measurement line : String} {firmware : Firmware} {r : Reading}
    (h : r.line? measurement firmware = some line) :
    line = (r.point measurement firmware).render := by
  unfold Reading.line? at h
  dsimp only at h
  split_ifs at h
  exact (Option.some.inj h).symm

theorem entries_tags (firmware : Firmware) (sensor : Sensor) :
    (KeyMap.ofList [("firmware", firmware.name), ("sensor", sensor.name)]).entries =
      [("firmware", firmware.name), ("sensor", sensor.name)] :=
  rfl

/-- What stands in a line in front of the value of a revision. -/
def revisionFront (measurement : String) (firmware : Firmware) : List Char :=
  measurement.toList ++
    (",firmware=".toList ++ firmware.name.toList ++ ",sensor=firmware-revision revision".toList)

theorem toList_line?_firmwareRevision {measurement line revision : String} {firmware : Firmware}
    (h : (Reading.firmwareRevision revision).line? measurement firmware = some line) :
    line.toList = revisionFront measurement firmware ++ '=' :: (quote revision).toList := by
  have hfields : (KeyMap.ofList (Reading.firmwareRevision revision).pointFields).entries =
      [("revision", .text revision)] := rfl
  rw [eq_render_of_line? h, Point.toList_render, Point.behind, Reading.point]
  dsimp only
  rw [entries_tags, hfields, toList_tagsText, toList_fieldsText_cons]
  simp [revisionFront, tagText, fieldText, FieldValue.render, Reading.sensor, Sensor.name,
    Point.shownTime, endText]

theorem length_name (firmware : Firmware) : firmware.name.toList.length = 6 := by
  cases firmware <;> rfl

theorem name_injective : Function.Injective Firmware.name := by
  intro firmware firmware' h
  cases firmware <;> cases firmware' <;> first | rfl | exact absurd h (by decide)

theorem revisionFront_inj {measurement measurement' : String} {firmware firmware' : Firmware}
    (h : revisionFront measurement firmware = revisionFront measurement' firmware') :
    measurement = measurement' ∧ firmware = firmware' := by
  obtain ⟨hmeasurement, htags⟩ := List.append_inj' h (by
    simp only [List.length_append, length_name])
  have hname := List.append_cancel_left (List.append_cancel_right htags)
  exact ⟨String.toList_inj.mp hmeasurement, name_injective (String.toList_inj.mp hname)⟩

/-- The names and numbers in a line have no line feeds. -/
theorem oneLine_behind {measurement : String} {firmware : Firmware} {r : Reading}
    (h : ∀ revision, r ≠ .firmwareRevision revision) :
    OneLine (r.point measurement firmware).behind := by
  have hfloats : ∀ field ∈ r.pointFields,
      OneLine field.1.toList ∧ OneLine field.2.render.toList := by
    have hnames : ∀ field ∈ r.fields, OneLine field.1.toList := by
      cases r with
      | firmwareRevision revision => exact absurd rfl (h revision)
      | _ => simp [Reading.fields, Axes.fields, IsBreak]
    have hnone : r.pointFields = r.finiteFields.map fun field ↦ (field.1, .float field.2) := by
      cases r with
      | firmwareRevision revision => exact absurd rfl (h revision)
      | _ => rfl
    rw [hnone]
    intro field hfield
    obtain ⟨⟨name, value⟩, hmem, rfl⟩ := List.mem_map.mp hfield
    exact ⟨hnames _ (List.mem_of_mem_filter hmem), oneLine_decimal value⟩
  have htags : ∀ tag ∈ [("firmware", firmware.name), ("sensor", r.sensor.name)],
      OneLine tag.1.toList ∧ OneLine tag.2.toList := by
    have hkeys : OneLine "firmware".toList ∧ OneLine "sensor".toList := by decide
    have hfirmware : OneLine firmware.name.toList := by cases firmware <;> decide
    have hsensor : OneLine r.sensor.name.toList := by cases r.sensor <;> decide
    exact List.forall_mem_cons.mpr ⟨⟨hkeys.1, hfirmware⟩,
      List.forall_mem_singleton.mpr ⟨hkeys.2, hsensor⟩⟩
  exact Point.oneLine_behind (fun tag htag ↦ htags tag (KeyMap.mem_of_mem_ofList htag))
    fun field hfield ↦ hfloats field (KeyMap.mem_of_mem_ofList hfield)

/-- A line has a line feed exactly if its measurement or a revision in it has one. -/
theorem mem_line?_iff {measurement line : String} {firmware : Firmware} {r : Reading}
    (h : r.line? measurement firmware = some line) :
    '\n' ∈ line.toList ↔ '\n' ∈ measurement.toList ∨
      ∃ revision, r = .firmwareRevision revision ∧ '\n' ∈ revision.toList := by
  by_cases hrevision : ∃ revision, r = .firmwareRevision revision
  · obtain ⟨revision, rfl⟩ := hrevision
    have hname : '\n' ∉ firmware.name.toList := by cases firmware <;> decide
    have hfront : '\n' ∈ revisionFront measurement firmware ↔ '\n' ∈ measurement.toList := by
      simp [revisionFront, hname]
    rw [toList_line?_firmwareRevision h, List.mem_append, hfront, List.mem_cons,
      mem_quote_iff (by decide) (by decide)]
    simp
  · have hnot : ∀ revision, r ≠ .firmwareRevision revision := fun revision hr ↦
      hrevision ⟨revision, hr⟩
    have hbehind : '\n' ∉ (r.point measurement firmware).behind := fun hmem ↦
      oneLine_behind hnot _ hmem (.inl rfl)
    rw [eq_render_of_line? h, Point.toList_render, List.mem_append, or_iff_left hbehind]
    refine (or_iff_left ?_).symm
    rintro ⟨revision, hr, -⟩
    exact hnot revision hr

theorem revision_of_decode {value : String} {firmware : Firmware}
    {calibration : Option Calibration} {sensor : Sensor} {reading : Reading}
    (h : decode sensor value firmware calibration = .ok reading) :
    (∃ revision, reading = .firmwareRevision revision ∧ '\n' ∈ revision.toList) ↔
      sensor = .firmwareRevision ∧
        ∃ bytes, Hex.IsValue (relevantText sensor firmware value).toList bytes ∧ 0x0A ∈ bytes := by
  obtain ⟨bytes, hvalue, hbytes⟩ := exists_isValue_of_decode h
  have hsensor := onlyOf_decodeBytes sensor firmware calibration bytes reading hbytes
  constructor
  · rintro ⟨revision, rfl, hfeed⟩
    obtain rfl : Sensor.firmwareRevision = sensor := hsensor
    obtain rfl : byteText bytes = revision := Reading.firmwareRevision.inj (Except.ok.inj hbytes)
    exact ⟨rfl, bytes, hvalue, (mem_byteText_iff bytes).mp hfeed⟩
  · rintro ⟨rfl, bytes', hvalue', hfeed⟩
    have hsame : bytes = bytes' := by
      have hread := Hex.spells_clean_iff_isValue.mpr hvalue
      have hread' := Hex.spells_clean_iff_isValue.mpr hvalue'
      exact Option.some.inj (hread.symm.trans hread')
    refine ⟨byteText bytes, (Except.ok.inj hbytes).symm, (mem_byteText_iff bytes).mpr ?_⟩
    rw [hsame]
    exact hfeed

theorem run_of_line? {r : SensorTagRequest} {calibration : Option Calibration} {reading : Reading}
    {line : String} (hcalibration : r.readCalibration = .ok calibration)
    (hdecode : decode r.sensor r.value r.firmware calibration = .ok reading)
    (hline : reading.line? r.measurement r.firmware = some line) :
    r.run.result = .ok () ∧ Effect.written .out r.run.effects = line ++ "\n" := by
  have hok : r.line = .ok line := by
    rw [SensorTagRequest.line, SensorTagRequest.lineOf, hcalibration]
    dsimp only
    rw [hdecode]
    dsimp only
    rw [SensorTagRequest.shown, hline]
  rw [r.result_run, r.written_run, hok]
  exact ⟨rfl, rfl⟩

/-- A revision of two lines. -/
def brokenRevision : String := "1\n2"

theorem feed_mem_line_of_brokenRevision :
    decode .firmwareRevision "31 0a 32" .cc2650 none = .ok (.firmwareRevision brokenRevision) ∧
    '\n' ∉ "m".toList ∧
    (Reading.firmwareRevision brokenRevision).line? "m" .cc2650 =
      some "m,firmware=cc2650,sensor=firmware-revision revision=\"1\n2\"" ∧
    '\n' ∈ "m,firmware=cc2650,sensor=firmware-revision revision=\"1\n2\"".toList := by
  have hvalue : Hex.IsValue "31 0a 32".toList [0x31, 0x0A, 0x32] :=
    Hex.spells_clean_iff_isValue.mp (Hex.spells_clean_iff.mpr (by decide))
  refine ⟨?_, by decide, by decide +kernel, by decide⟩
  rw [decode_of_isValue (by decide) none hvalue]
  rfl

/-- The line of a decoded value holds a line feed exactly if the value is a revision with a byte for
one, so a request for any other value writes one line.  A revision can be told from its line, with
the measurement and the generation. -/
theorem feed_mem_line_iff {sensor : Sensor} {firmware : Firmware}
    {calibration : Option Calibration} {value measurement line : String} {reading : Reading}
    (hmeasurement : '\n' ∉ measurement.toList)
    (hdecode : decode sensor value firmware calibration = .ok reading)
    (hline : reading.line? measurement firmware = some line) :
    ('\n' ∈ line.toList ↔ sensor = .firmwareRevision ∧
      ∃ bytes, Hex.IsValue (relevantText sensor firmware value).toList bytes ∧ 0x0A ∈ bytes) ∧
    (∀ revision revision' measurement' firmware', reading = .firmwareRevision revision →
      (Reading.firmwareRevision revision').line? measurement' firmware' = some line →
      revision' = revision ∧ measurement' = measurement ∧ firmware' = firmware) ∧
    ∀ r : SensorTagRequest, r.sensor = sensor → r.value = value → r.firmware = firmware →
      r.measurement = measurement → r.readCalibration = .ok calibration →
      r.run.result = .ok () ∧ Effect.written .out r.run.effects = line ++ "\n" := by
  refine ⟨?_, ?_, ?_⟩
  · rw [mem_line?_iff hline, or_iff_right hmeasurement, revision_of_decode hdecode]
  · rintro revision revision' measurement' firmware' rfl hline'
    have hsame := (toList_line?_firmwareRevision hline').symm.trans
      (toList_line?_firmwareRevision hline)
    obtain ⟨hfront, hrevision⟩ := quote_inj hsame
    exact ⟨hrevision, revisionFront_inj hfront⟩
  · rintro r rfl rfl rfl rfl hcalibration
    exact run_of_line? hcalibration hdecode hline

/-- A request for a revision of a backslash and a quote, which are both escaped. -/
def quotingRevision : SensorTagRequest :=
  ⟨.firmwareRevision, ["5c", "22"], some .cc2650, none, none, "m,sensor=light x"⟩

theorem feed_mem_line_iff_quotingRevision :
    decode .firmwareRevision "5c 22" .cc2650 none = .ok (.firmwareRevision "\\\"") ∧
    quotingRevision.run.result = .ok () ∧
    Effect.written .out quotingRevision.run.effects =
      "m,sensor=light x,firmware=cc2650,sensor=firmware-revision revision=\"\\\\\\\"\"\n" ∧
    (∀ revision measurement firmware,
      (Reading.firmwareRevision revision).line? measurement firmware =
        some "m,sensor=light x,firmware=cc2650,sensor=firmware-revision revision=\"\\\\\\\"\"" →
      revision = "\\\"" ∧ measurement = "m,sensor=light x") := by
  have hvalue : Hex.IsValue "5c 22".toList [0x5C, 0x22] :=
    Hex.spells_clean_iff_isValue.mp (Hex.spells_clean_iff.mpr (by decide))
  have hdecode : decode .firmwareRevision "5c 22" .cc2650 none =
      .ok (.firmwareRevision "\\\"") := by
    rw [decode_of_isValue (by decide) none hvalue]
    rfl
  have hline : (Reading.firmwareRevision "\\\"").line? "m,sensor=light x" .cc2650 =
      some "m,sensor=light x,firmware=cc2650,sensor=firmware-revision revision=\"\\\\\\\"\"" := by
    decide +kernel
  obtain ⟨-, hunique, hrun⟩ := feed_mem_line_iff (by decide) hdecode hline
  obtain ⟨hresult, hwritten⟩ := hrun quotingRevision rfl rfl rfl rfl rfl
  refine ⟨hdecode, hresult, hwritten.trans (by decide +kernel), ?_⟩
  intro revision measurement firmware hshown
  obtain ⟨hrevision, hmeasurement, -⟩ := hunique _ revision measurement firmware rfl hshown
  exact ⟨hrevision, hmeasurement⟩

end SensorTag

end BleBeacon
