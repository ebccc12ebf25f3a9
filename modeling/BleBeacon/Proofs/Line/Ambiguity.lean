import Mathlib
import BleBeacon.Proofs.Line.Reading

/-!
# Points that share a text

Names are not escaped.  Points whose names are free of the characters that would end them have
texts of their own; a measurement with a separator in it is also the start of a shorter measurement.
-/

namespace BleBeacon.Line

/-- Texts that may stand as a name: neither empty nor longer than a line. -/
def IsName (s : String) : Prop := s ≠ "" ∧ '\n' ∉ s.toList

namespace Point

variable {p q : Point}

/-- Points with names in all places, some fields, and no time before 1970. -/
structure Named (p : Point) : Prop where
  measurement : IsName p.measurement
  tags : ∀ tag ∈ p.tags.entries, IsName tag.1 ∧ IsName tag.2
  fields : ∀ field ∈ p.fields.entries, IsName field.1 ∧ field.2.Exact
  nonempty : p.fields.entries ≠ []
  time : ∀ time ∈ p.time, 0 ≤ time

/-! ## Measurements taken apart -/

/-- A shorter measurement ends in front of a separator in the longer one. -/
theorem exists_isSeparator_of_render_eq (hq : q.measurement ≠ "") (h : p.render = q.render)
    (hlength : q.measurement.length < p.measurement.length) :
    ∃ c ∈ p.measurement.toList.tail, IsSeparator c := by
  rw [← String.toList_inj, toList_render, toList_render, List.append_eq_append_iff] at h
  rcases h with ⟨more, hmore, -⟩ | ⟨more, hmore, hbehind⟩
  · have hle := congrArg List.length hmore
    rw [List.length_append, String.length_toList, String.length_toList] at hle
    omega
  · cases more with
    | nil =>
      rw [List.append_nil, String.toList_inj] at hmore
      rw [hmore] at hlength
      exact absurd hlength (lt_irrefl _)
    | cons c more =>
      refine ⟨c, ?_, q.isSeparator_of_mem_head?_behind c (by rw [hbehind]; rfl)⟩
      rw [hmore]
      cases hchars : q.measurement.toList with
      | nil => exact absurd (String.toList_inj.mp hchars) hq
      | cons d chars => simp

/-- A point with a single field and at most one tag. -/
def plain (measurement : String) (tag : Option (String × String)) (key : String) : Point :=
  ⟨measurement, .ofList tag.toList, .ofList [(key, .integer 0)], none⟩

theorem named_plain {measurement key : String} {tag : Option (String × String)}
    (hmeasurement : IsName measurement) (htag : ∀ t ∈ tag, IsName t.1 ∧ IsName t.2)
    (hkey : IsName key) : (plain measurement tag key).Named where
  measurement := hmeasurement
  tags := by
    cases tag with
    | none => exact List.forall_mem_nil _
    | some t => exact List.forall_mem_singleton.mpr (htag t rfl)
  fields := List.forall_mem_singleton.mpr ⟨hkey, trivial⟩
  nonempty := List.cons_ne_nil _ _
  time := by
    intro time htime
    cases htime

theorem toList_render_plain (measurement : String) (tag : Option (String × String))
    (key : String) : (plain measurement tag key).render.toList =
      measurement.toList ++ (tag.toList.flatMap (fun t ↦ ',' :: tagText t) ++
        ' ' :: fieldText (key, .integer 0)) := by
  have htags : (plain measurement tag key).tags.entries = tag.toList := by cases tag <;> rfl
  have hfields : (plain measurement tag key).fields.entries = [(key, .integer 0)] := rfl
  have htime : endText (plain measurement tag key).shownTime = [] := rfl
  rw [toList_render, behind, htags, hfields, htime, toList_tagsText, toList_fieldsText_cons,
    List.flatMap_nil, List.append_nil, List.append_nil]
  rfl

theorem isName_ofList {cs : List Char} (hcs : cs ≠ []) (hline : '\n' ∉ cs) :
    IsName (String.ofList cs) := by
  refine ⟨fun h ↦ hcs ?_, by rwa [String.toList_ofList]⟩
  rw [← String.toList_inj, String.toList_ofList] at h
  exact h

/-- What stands behind a separator can be read as the start of a tag or of a field. -/
theorem exists_render_eq_of_isSeparator {m : String} (hm : IsName m)
    (h : ∃ c ∈ m.toList.tail, IsSeparator c) :
    ∃ p q : Point, p.Named ∧ q.Named ∧ p.measurement = m ∧
      q.measurement.length < m.length ∧ p.render = q.render := by
  obtain ⟨c, hc, hseparator⟩ := h
  obtain ⟨first, tail, hchars⟩ :=
    List.exists_cons_of_ne_nil (List.ne_nil_of_mem (List.mem_of_mem_tail hc))
  rw [hchars, List.tail_cons] at hc
  obtain ⟨front, back, rfl⟩ := List.append_of_mem hc
  have hline := hm.2
  rw [hchars, List.mem_cons, List.mem_append, List.mem_cons, not_or, not_or, not_or] at hline
  obtain ⟨hfirst, hfront, -, hback⟩ := hline
  have hshort : IsName (String.ofList (first :: front)) :=
    isName_ofList (List.cons_ne_nil _ _) (List.not_mem_cons_of_ne_of_not_mem hfirst hfront)
  have hlength : (String.ofList (first :: front)).length < m.length := by
    rw [← String.length_toList, ← String.length_toList, hchars, String.toList_ofList]
    simp
  rcases hseparator with rfl | rfl
  · -- A comma starts a tag, whose key runs on into the tag of the longer measurement.
    refine ⟨plain m (some ("tag", "0")) "field",
      plain (String.ofList (first :: front)) (some (String.ofList (back ++ ",tag".toList), "0"))
        "field", named_plain hm ?_ ?_, named_plain hshort ?_ ?_, rfl, hlength, ?_⟩
    · simp [IsName]
    · simp [IsName]
    · rintro _ ⟨⟩
      exact ⟨isName_ofList (by simp) (by simpa using hback), by simp [IsName]⟩
    · simp [IsName]
    · rw [← String.toList_inj, toList_render_plain, toList_render_plain, hchars]
      simp [tagText]
  · -- A blank starts the fields, and the key of the first one holds the other blank.
    refine ⟨plain m none "field",
      plain (String.ofList (first :: front)) none (String.ofList (back ++ " field".toList)),
      named_plain hm ?_ ?_, named_plain hshort ?_ ?_, rfl, hlength, ?_⟩
    · simp
    · simp [IsName]
    · simp
    · exact isName_ofList (by simp) (by simpa using hback)
    · rw [← String.toList_inj, toList_render_plain, toList_render_plain, hchars]
      simp [fieldText]

/-- A measurement with what looks like a tag in it. -/
def roof : Point := plain "weather,site=roof" none "value"

def taggedRoof : Point := plain "weather" (some ("site", "roof")) "value"

theorem not_eq_of_render_eq :
    ¬ ∀ p q : Point, p.Named → q.Named → p.render = q.render →
      p.measurement = q.measurement ∧ p.tags = q.tags ∧ p.fields = q.fields ∧ p.time = q.time := by
  intro h
  have hroof : roof.Named := named_plain (by simp [IsName]) (by simp) (by simp [IsName])
  have htagged : taggedRoof.Named :=
    named_plain (by simp [IsName]) (by simp [IsName]) (by simp [IsName])
  have hsame : roof.render = taggedRoof.render := by decide +kernel
  exact absurd (h roof taggedRoof hroof htagged hsame).1 (by decide)

/-! ## Points that can be told apart -/

theorem Named.shownTime_eq (hp : p.Named) : p.shownTime = p.time := by
  have htime := hp.time
  rw [shownTime]
  cases hshown : p.time with
  | none => rfl
  | some time =>
    rw [hshown] at htime
    exact Option.filter_some_pos (decide_eq_true (htime time rfl))

/-- Points whose tags, fields and measurement end where their separator stands first have a text of
their own.  For points with any names, a measurement is not taken for a shorter one exactly when it
has no separator behind its first character. -/
theorem eq_of_render_eq_and_render_ne_iff (hp : p.Named) (hq : q.Named) :
    (p.Delimited → q.Delimited → Unseparated p.measurement → Unseparated q.measurement →
      p.render = q.render →
      p.measurement = q.measurement ∧ p.tags = q.tags ∧ p.fields = q.fields ∧ p.time = q.time) ∧
    ((∀ p' q' : Point, p'.Named → q'.Named → p'.measurement = p.measurement →
        q'.measurement.length < p.measurement.length → p'.render ≠ q'.render) ↔
      ∀ c ∈ p.measurement.toList.tail, ¬ IsSeparator c) := by
  constructor
  · intro hdelimited hdelimited' hmeasurement hmeasurement' h
    rw [← String.toList_inj, toList_render, toList_render] at h
    obtain ⟨hname, hbehind⟩ := append_inj_of_stop hmeasurement hmeasurement'
      p.isSeparator_of_mem_head?_behind q.isSeparator_of_mem_head?_behind h
    obtain ⟨htags, hfields, htime⟩ := eq_of_behind_eq hdelimited hdelimited' hbehind
    rw [hp.shownTime_eq, hq.shownTime_eq] at htime
    exact ⟨String.toList_inj.mp hname, htags, hfields, htime⟩
  · constructor
    · intro hne c hc hseparator
      obtain ⟨p', q', hp', hq', hm, hlength, h⟩ :=
        exists_render_eq_of_isSeparator hp.measurement ⟨c, hc, hseparator⟩
      exact hne p' q' hp' hq' hm hlength h
    · intro hfree p' q' _ hq' hm hlength h
      rw [← hm] at hfree hlength
      obtain ⟨c, hc, hseparator⟩ :=
        exists_isSeparator_of_render_eq hq'.measurement.1 h hlength
      exact hfree c hc hseparator

/-- A text that would end its field and start another one, were it not for the escapes. -/
def quotedNote : Point := ⟨"note", .empty, .ofList [("a", .text "1\",b=\"2")], some 0⟩

def twoNotes : Point := ⟨"note", .empty, .ofList [("a", .text "1"), ("b", .text "2")], some 0⟩

theorem eq_of_render_eq_and_render_ne_iff_notes :
    (quotedNote.Named ∧ twoNotes.Named) ∧ (quotedNote.Delimited ∧ twoNotes.Delimited) ∧
    quotedNote.render ≠ twoNotes.render ∧
    (∀ p q : Point, p.Named → q.Named → p.measurement = "note" → q.measurement.length < 4 →
      p.render ≠ q.render) := by
  have hname : ∀ key ∈ ["note", "a", "b"], IsName key := by simp [IsName]
  have hquoted : quotedNote.Named :=
    ⟨hname _ (by simp [quotedNote]), List.forall_mem_nil _,
      List.forall_mem_singleton.mpr ⟨hname _ (by simp), trivial⟩, List.cons_ne_nil _ _,
      fun time htime ↦ (Option.some.inj htime).le⟩
  have htwo : twoNotes.Named :=
    ⟨hname _ (by simp [twoNotes]), List.forall_mem_nil _,
      List.forall_mem_cons.mpr ⟨⟨hname _ (by simp), trivial⟩,
        List.forall_mem_singleton.mpr ⟨hname _ (by simp), trivial⟩⟩, List.cons_ne_nil _ _,
      fun time htime ↦ (Option.some.inj htime).le⟩
  have hquoted' : quotedNote.Delimited :=
    ⟨List.forall_mem_nil _, List.forall_mem_singleton.mpr ⟨by decide, trivial⟩⟩
  have htwo' : twoNotes.Delimited :=
    ⟨List.forall_mem_nil _, List.forall_mem_cons.mpr
      ⟨⟨by decide, trivial⟩, List.forall_mem_singleton.mpr ⟨by decide, trivial⟩⟩⟩
  have hnote : Unseparated "note" := by simp [Unseparated, IsSeparator]
  obtain ⟨hdistinct, hlonger⟩ := eq_of_render_eq_and_render_ne_iff hquoted htwo
  refine ⟨⟨hquoted, htwo⟩, ⟨hquoted', htwo'⟩, fun hsame ↦ ?_, ?_⟩
  · have hfields := (hdistinct hquoted' htwo' hnote hnote hsame).2.2.1
    exact absurd (congrArg (·.entries.length) hfields) (by decide)
  · exact hlonger.mpr fun c hc ↦ hnote c (List.mem_of_mem_tail hc)

end Point

end BleBeacon.Line
