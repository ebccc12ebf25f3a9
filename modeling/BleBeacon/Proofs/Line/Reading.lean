import Mathlib
import BleBeacon.Proofs.Observation

/-!
# Points read from their text

Names are written as they are, so they end where their separator stands first.  The text of a field
ends itself, whatever it holds.  So a point whose names are free of separators can be told from its
text, and nothing else has to be known about its fields.
-/

namespace BleBeacon.Line

open Observation

/-! ## Texts that end at a separator -/

theorem append_inj_of_stop {p : Char → Prop} {xs ys rest rest' : List Char}
    (hxs : ∀ c ∈ xs, ¬ p c) (hys : ∀ c ∈ ys, ¬ p c) (hrest : ∀ c ∈ rest.head?, p c)
    (hrest' : ∀ c ∈ rest'.head?, p c) (h : xs ++ rest = ys ++ rest') : xs = ys ∧ rest = rest' := by
  induction xs generalizing ys with
  | nil =>
    cases ys with
    | nil => exact ⟨rfl, h⟩
    | cons c ys =>
      rw [List.nil_append] at h
      rw [h] at hrest
      exact absurd (hrest c rfl) (hys c List.mem_cons_self)
  | cons c xs ih =>
    cases ys with
    | nil =>
      rw [List.nil_append] at h
      rw [← h] at hrest'
      exact absurd (hrest' c rfl) (hxs c List.mem_cons_self)
    | cons d ys =>
      obtain ⟨rfl, htail⟩ := List.cons.inj h
      obtain ⟨rfl, hrest⟩ := ih (fun c hc ↦ hxs c (List.mem_cons_of_mem _ hc))
        (fun c hc ↦ hys c (List.mem_cons_of_mem _ hc)) htail
      exact ⟨rfl, hrest⟩

/-- A text without a character ends where the character stands first. -/
theorem append_inj_of_not_mem {c : Char} {xs ys rest rest' : List Char} (hxs : c ∉ xs)
    (hys : c ∉ ys) (h : xs ++ c :: rest = ys ++ c :: rest') : xs = ys ∧ rest = rest' := by
  have hhead : ∀ r : List Char, ∀ d ∈ (c :: r).head?, d = c := by
    rintro r d hd
    exact (Option.some.inj hd).symm
  obtain ⟨hname, hbehind⟩ := append_inj_of_stop (p := (· = c))
    (fun d hd heq ↦ hxs (heq ▸ hd)) (fun d hd heq ↦ hys (heq ▸ hd)) (hhead rest) (hhead rest') h
  exact ⟨hname, (List.cons.inj hbehind).2⟩

/-! ## Values of fields -/

/-- A character has a backslash in front of it, or it is neither a backslash nor a quote. -/
theorem escapeChar_cases (c : Char) :
    escapeChar c = ['\\', c] ∨ (c ≠ '\\' ∧ c ≠ '"' ∧ escapeChar c = [c]) := by
  rw [escapeChar.eq_def]
  split
  · exact .inl rfl
  · exact .inl rfl
  · rename_i hbackslash hquote
    exact .inr ⟨hbackslash, hquote, rfl⟩

theorem escapeChar_append_inj {c d : Char} {rest rest' : List Char}
    (h : escapeChar c ++ rest = escapeChar d ++ rest') : c = d ∧ rest = rest' := by
  rcases escapeChar_cases c with hc | ⟨hcslash, -, hc⟩ <;>
    rcases escapeChar_cases d with hd | ⟨hdslash, -, hd⟩ <;>
    rw [hc, hd] at h
  · exact List.cons.inj (List.cons.inj h).2
  · exact absurd (List.cons.inj h).1.symm hdslash
  · exact absurd (List.cons.inj h).1 hcslash
  · exact List.cons.inj h

/-- What a character is written as does not start with a quote. -/
theorem escapeChar_append_ne (c : Char) (rest rest' : List Char) :
    escapeChar c ++ rest ≠ '"' :: rest' := by
  intro h
  rcases escapeChar_cases c with hc | ⟨-, hquote, hc⟩ <;> rw [hc] at h
  · exact absurd (List.cons.inj h).1 (by decide)
  · exact absurd (List.cons.inj h).1 hquote

theorem escaped_append_inj {xs ys rest rest' : List Char}
    (h : xs.flatMap escapeChar ++ '"' :: rest = ys.flatMap escapeChar ++ '"' :: rest') :
    xs = ys ∧ rest = rest' := by
  induction xs generalizing ys with
  | nil =>
    cases ys with
    | nil => exact ⟨rfl, (List.cons.inj h).2⟩
    | cons d ys =>
      rw [List.flatMap_cons, List.append_assoc] at h
      exact absurd h.symm (escapeChar_append_ne d _ _)
  | cons c xs ih =>
    cases ys with
    | nil =>
      rw [List.flatMap_cons, List.append_assoc] at h
      exact absurd h (escapeChar_append_ne c _ _)
    | cons d ys =>
      rw [List.flatMap_cons, List.flatMap_cons, List.append_assoc, List.append_assoc] at h
      obtain ⟨rfl, htail⟩ := escapeChar_append_inj h
      obtain ⟨rfl, hrest⟩ := ih htail
      exact ⟨rfl, hrest⟩

theorem mem_toString_int {n : Int} {c : Char} (h : c ∈ (toString n).toList) :
    c = '-' ∨ c.isDigit := by
  have hdigits : ∀ k : Nat, ∀ d ∈ k.repr.toList, d.isDigit := by
    intro k d hd
    rw [Nat.repr_eq_ofList_toDigits, String.toList_ofList] at hd
    exact Nat.isDigit_of_mem_toDigits (by decide) (by decide) hd
  rw [Int.toString_eq_repr, Int.repr_eq_if] at h
  split_ifs at h
  · exact .inr (hdigits _ c h)
  · rw [String.toList_append, List.mem_append] at h
    rcases h with hsign | hdigit
    · exact .inl (List.mem_singleton.mp hsign)
    · exact .inr (hdigits _ c hdigit)

theorem not_mem_toString_int {c : Char} (hsign : c ≠ '-') (hdigit : c.isDigit = false) (n : Int) :
    c ∉ (toString n).toList := by
  intro h
  rcases mem_toString_int h with h | h
  · exact hsign h
  · rw [hdigit] at h
    cases h

/-- Values that are no floating point numbers. -/
def FieldValue.Exact : FieldValue → Prop
  | float _ => False
  | integer _ => True
  | text _ => True

theorem toList_quote (s : String) :
    (quote s).toList = '"' :: (s.toList.flatMap escapeChar ++ ['"']) := by
  simp only [quote, String.toList_append, String.toList_ofList]
  rfl

theorem FieldValue.toList_render_integer (n : Int) :
    (FieldValue.integer n).render.toList = (toString n).toList ++ ['i'] := by
  rw [render, String.toList_append]
  rfl

/-- An integer is never taken for a text: it does not start with a quote. -/
theorem FieldValue.render_integer_append_ne (n : Int) (s : String) (rest rest' : List Char) :
    (FieldValue.integer n).render.toList ++ rest ≠ (FieldValue.text s).render.toList ++ rest' := by
  rw [toList_render_integer, show (FieldValue.text s).render = quote s from rfl, toList_quote]
  have hquote : '"' ∉ (toString n).toList := not_mem_toString_int (by decide) (by decide) n
  cases hdigits : (toString n).toList with
  | nil => simp
  | cons c digits =>
    intro h
    rw [hdigits] at hquote
    exact hquote (List.mem_cons.mpr (.inl (List.cons.inj h).1.symm))

/-- The text of a value shows where it ends. -/
theorem FieldValue.render_append_inj {v v' : FieldValue} (hv : v.Exact) (hv' : v'.Exact)
    {rest rest' : List Char} (h : v.render.toList ++ rest = v'.render.toList ++ rest') :
    v = v' ∧ rest = rest' := by
  cases v with
  | float x => exact hv.elim
  | integer n =>
    cases v' with
    | float x => exact hv'.elim
    | text s => exact absurd h (render_integer_append_ne n s rest rest')
    | integer n' =>
      rw [toList_render_integer, toList_render_integer, List.append_assoc, List.append_assoc] at h
      obtain ⟨hdigits, hrest⟩ := append_inj_of_not_mem (c := 'i')
        (not_mem_toString_int (by decide) (by decide) n)
        (not_mem_toString_int (by decide) (by decide) n') h
      rw [String.toList_inj, Int.toString_eq_repr, Int.toString_eq_repr, Int.repr_inj] at hdigits
      exact ⟨congrArg FieldValue.integer hdigits, hrest⟩
  | text s =>
    cases v' with
    | float x => exact hv'.elim
    | integer n => exact absurd h.symm (render_integer_append_ne n s rest' rest)
    | text s' =>
      change (quote s).toList ++ rest = (quote s').toList ++ rest' at h
      rw [toList_quote, toList_quote, List.cons_append, List.cons_append, List.append_assoc,
        List.append_assoc] at h
      obtain ⟨hs, hrest⟩ := escaped_append_inj (List.cons.inj h).2
      exact ⟨congrArg FieldValue.text (String.toList_inj.mp hs), hrest⟩

/-! ## Entries behind commas -/

/-- Entries with a comma in front of each can be told apart when the text of an entry ends itself in
front of what may follow it. -/
theorem entries_append_inj {α : Type} {text : α → List Char} {Good : α → Prop}
    (Follows : List Char → Prop) (hcomma : ∀ rest, Follows (',' :: rest))
    (htext : ∀ {a b : α} {rest rest' : List Char}, Good a → Good b → Follows rest →
      Follows rest' → text a ++ rest = text b ++ rest' → a = b ∧ rest = rest')
    {xs ys : List α} (hxs : ∀ a ∈ xs, Good a) (hys : ∀ b ∈ ys, Good b) {rest rest' : List Char}
    (hrest : Follows rest) (hrest' : Follows rest') (hhead : rest.head? ≠ some ',')
    (hhead' : rest'.head? ≠ some ',')
    (h : xs.flatMap (fun a ↦ ',' :: text a) ++ rest =
      ys.flatMap (fun b ↦ ',' :: text b) ++ rest') : xs = ys ∧ rest = rest' := by
  have hfollows : ∀ zs : List α, ∀ rest, Follows rest →
      Follows (zs.flatMap (fun a ↦ ',' :: text a) ++ rest) := by
    intro zs rest hrest
    cases zs with
    | nil => exact hrest
    | cons z zs => exact hcomma _
  induction xs generalizing ys with
  | nil =>
    cases ys with
    | nil => exact ⟨rfl, h⟩
    | cons b ys => exact absurd (congrArg List.head? h) hhead
  | cons a xs ih =>
    cases ys with
    | nil => exact absurd (congrArg List.head? h).symm hhead'
    | cons b ys =>
      obtain ⟨ha, hmore⟩ := List.forall_mem_cons.mp hxs
      obtain ⟨hb, hmore'⟩ := List.forall_mem_cons.mp hys
      rw [List.flatMap_cons, List.flatMap_cons, List.append_assoc, List.append_assoc] at h
      obtain ⟨rfl, htail⟩ := htext ha hb (hfollows xs rest hrest) (hfollows ys rest' hrest')
        (List.cons.inj h).2
      obtain ⟨rfl, hend⟩ := ih hmore hmore' htail
      exact ⟨rfl, hend⟩

/-! ## Tags -/

/-- The characters that end a measurement and the value of a tag. -/
def IsSeparator (c : Char) : Prop := c = ',' ∨ c = ' '

def Unseparated (s : String) : Prop := ∀ c ∈ s.toList, ¬ IsSeparator c

/-- Tags whose key and value end where the next separator stands. -/
def TagDelimited (tag : String × String) : Prop := '=' ∉ tag.1.toList ∧ Unseparated tag.2

def tagText (tag : String × String) : List Char := tag.1.toList ++ '=' :: tag.2.toList

theorem tagText_append_inj {tag tag' : String × String} {rest rest' : List Char}
    (htag : TagDelimited tag) (htag' : TagDelimited tag')
    (hrest : ∀ c ∈ rest.head?, IsSeparator c) (hrest' : ∀ c ∈ rest'.head?, IsSeparator c)
    (h : tagText tag ++ rest = tagText tag' ++ rest') : tag = tag' ∧ rest = rest' := by
  rw [tagText, tagText, List.append_assoc, List.append_assoc, List.cons_append,
    List.cons_append] at h
  obtain ⟨hkey, hbehind⟩ := append_inj_of_not_mem htag.1 htag'.1 h
  obtain ⟨hvalue, hrest⟩ := append_inj_of_stop htag.2 htag'.2 hrest hrest' hbehind
  exact ⟨Prod.ext (String.toList_inj.mp hkey) (String.toList_inj.mp hvalue), hrest⟩

theorem toList_tagsText (tags : List (String × String)) :
    (tagsText tags).toList = tags.flatMap fun tag ↦ ',' :: tagText tag := by
  rw [tagsText, String.toList_join, List.flatMap_map]
  simp [tagText]

theorem tagsText_append_inj {tags tags' : List (String × String)} {rest rest' : List Char}
    (htags : ∀ tag ∈ tags, TagDelimited tag) (htags' : ∀ tag ∈ tags', TagDelimited tag)
    (h : (tagsText tags).toList ++ ' ' :: rest = (tagsText tags').toList ++ ' ' :: rest') :
    tags = tags' ∧ rest = rest' := by
  rw [toList_tagsText, toList_tagsText] at h
  obtain ⟨htag, hrest⟩ := entries_append_inj (fun rest ↦ ∀ c ∈ rest.head?, IsSeparator c)
    (by simp [IsSeparator]) tagText_append_inj htags htags' (by simp [IsSeparator])
    (by simp [IsSeparator]) (by simp) (by simp) h
  exact ⟨htag, (List.cons.inj hrest).2⟩

/-! ## Fields -/

/-- Fields whose key ends where its value starts.  No text in a value has to be ruled out. -/
def FieldDelimited (field : String × FieldValue) : Prop :=
  '=' ∉ field.1.toList ∧ field.2.Exact

def fieldText (field : String × FieldValue) : List Char :=
  field.1.toList ++ '=' :: field.2.render.toList

theorem fieldText_append_inj {field field' : String × FieldValue} {rest rest' : List Char}
    (hfield : FieldDelimited field) (hfield' : FieldDelimited field')
    (h : fieldText field ++ rest = fieldText field' ++ rest') : field = field' ∧ rest = rest' := by
  rw [fieldText, fieldText, List.append_assoc, List.append_assoc, List.cons_append,
    List.cons_append] at h
  obtain ⟨hkey, hbehind⟩ := append_inj_of_not_mem hfield.1 hfield'.1 h
  obtain ⟨hvalue, hrest⟩ := FieldValue.render_append_inj hfield.2 hfield'.2 hbehind
  exact ⟨Prod.ext (String.toList_inj.mp hkey) hvalue, hrest⟩

theorem toList_fieldsText_cons (field : String × FieldValue)
    (fields : List (String × FieldValue)) :
    (fieldsText (field :: fields)).toList =
      fieldText field ++ fields.flatMap fun field ↦ ',' :: fieldText field := by
  induction fields generalizing field with
  | nil => simp [fieldsText, fieldText]
  | cons next fields ih =>
    rw [List.flatMap_cons, List.cons_append, ← ih next]
    simp [fieldsText, fieldText, String.intercalate_cons_cons]

/-- Behind fields stands a text that is taken neither for another field nor for a key. -/
theorem fieldsText_append_inj {fields fields' : List (String × FieldValue)}
    {rest rest' : List Char} (hfields : ∀ field ∈ fields, FieldDelimited field)
    (hfields' : ∀ field ∈ fields', FieldDelimited field) (hrest : rest.head? ≠ some ',' ∧ '=' ∉ rest)
    (hrest' : rest'.head? ≠ some ',' ∧ '=' ∉ rest')
    (h : (fieldsText fields).toList ++ rest = (fieldsText fields').toList ++ rest') :
    fields = fields' ∧ rest = rest' := by
  have hkey : ∀ field more rest, '=' ∈ (fieldsText (field :: more)).toList ++ rest := by
    intro field more rest
    simp [toList_fieldsText_cons, fieldText]
  cases fields with
  | nil =>
    cases fields' with
    | nil => exact ⟨rfl, h⟩
    | cons field' more' =>
      rw [show (fieldsText []).toList ++ rest = rest from rfl] at h
      exact absurd (h ▸ hkey field' more' rest') hrest.2
  | cons field more =>
    cases fields' with
    | nil =>
      rw [show (fieldsText []).toList ++ rest' = rest' from rfl] at h
      exact absurd (h ▸ hkey field more rest) hrest'.2
    | cons field' more' =>
      obtain ⟨hfield, hmore⟩ := List.forall_mem_cons.mp hfields
      obtain ⟨hfield', hmore'⟩ := List.forall_mem_cons.mp hfields'
      rw [toList_fieldsText_cons, toList_fieldsText_cons, List.append_assoc,
        List.append_assoc] at h
      obtain ⟨rfl, hbehind⟩ := fieldText_append_inj hfield hfield' h
      obtain ⟨rfl, hend⟩ := entries_append_inj (fun _ ↦ True) (fun _ ↦ trivial)
        (fun ha hb _ _ ↦ fieldText_append_inj ha hb) hmore hmore' trivial trivial hrest.1 hrest'.1
        hbehind
      exact ⟨rfl, hend⟩

/-! ## Times -/

/-- The end of a line with a time, or without one. -/
def endText : Option Int → List Char
  | some time => ' ' :: (toString time).toList
  | none => []

theorem head?_endText (time : Option Int) : (endText time).head? ≠ some ',' := by
  cases time <;> simp [endText]

theorem not_mem_endText {c : Char} (hspace : c ≠ ' ') (hsign : c ≠ '-')
    (hdigit : c.isDigit = false) (time : Option Int) : c ∉ endText time := by
  cases time with
  | none => exact List.not_mem_nil
  | some t => exact List.not_mem_cons_of_ne_of_not_mem hspace (not_mem_toString_int hsign hdigit t)

theorem endText_injective : Function.Injective endText := by
  intro time time' h
  cases time with
  | none =>
    cases time' with
    | none => rfl
    | some t => cases h
  | some t =>
    cases time' with
    | none => cases h
    | some t' =>
      have hdigits := String.toList_inj.mp (List.cons.inj h).2
      rw [Int.toString_eq_repr, Int.toString_eq_repr, Int.repr_inj] at hdigits
      exact congrArg some hdigits

/-! ## Points -/

theorem KeyMap.entries_injective {α : Type} :
    Function.Injective (KeyMap.entries : KeyMap α → List (String × α)) := by
  rintro ⟨entries, _⟩ ⟨entries', _⟩ h
  cases h
  rfl

namespace Point

variable {p q : Point}

/-- The time that the text of a point shows. -/
def shownTime (p : Point) : Option Int := p.time.filter (0 ≤ ·)

/-- What stands behind the measurement. -/
def behind (p : Point) : List Char :=
  (tagsText p.tags.entries).toList ++
    ' ' :: ((fieldsText p.fields.entries).toList ++ endText p.shownTime)

theorem toList_render (p : Point) : p.render.toList = p.measurement.toList ++ p.behind := by
  have hrender : p.render = p.measurement ++ tagsText p.tags.entries ++ " " ++
      fieldsText p.fields.entries ++ p.time.elim "" timeText := by
    rcases p with ⟨measurement, tags, fields, _ | time⟩ <;> rfl
  have hend : (p.time.elim "" timeText).toList = endText p.shownTime := by
    rw [shownTime]
    cases p.time with
    | none => rfl
    | some time => by_cases htime : 0 ≤ time <;> simp [timeText, endText, Option.filter, htime]
  simp only [hrender, String.toList_append, hend, List.append_assoc]
  rfl

/-- Points whose tags and fields can be found in their text. -/
structure Delimited (p : Point) : Prop where
  tags : ∀ tag ∈ p.tags.entries, TagDelimited tag
  fields : ∀ field ∈ p.fields.entries, FieldDelimited field

theorem isSeparator_of_mem_head?_behind (p : Point) : ∀ c ∈ p.behind.head?, IsSeparator c := by
  intro c hc
  rw [behind, toList_tagsText] at hc
  cases htags : p.tags.entries with
  | nil =>
    rw [htags] at hc
    exact .inr (Option.some.inj hc).symm
  | cons tag tags =>
    rw [htags] at hc
    exact .inl (Option.some.inj hc).symm

/-- What stands behind the measurement tells everything else. -/
theorem eq_of_behind_eq (hp : p.Delimited) (hq : q.Delimited) (h : p.behind = q.behind) :
    p.tags = q.tags ∧ p.fields = q.fields ∧ p.shownTime = q.shownTime := by
  obtain ⟨htags, hrest⟩ := tagsText_append_inj hp.tags hq.tags h
  have hequals := not_mem_endText (c := '=') (by decide) (by decide) (by decide)
  obtain ⟨hfields, hend⟩ := fieldsText_append_inj hp.fields hq.fields
    ⟨head?_endText _, hequals _⟩ ⟨head?_endText _, hequals _⟩ hrest
  exact ⟨KeyMap.entries_injective htags, KeyMap.entries_injective hfields,
    endText_injective hend⟩

theorem eq_of_render_eq (hp : p.Delimited) (hq : q.Delimited)
    (hmeasurement : p.measurement = q.measurement) (h : p.render = q.render) :
    p.tags = q.tags ∧ p.fields = q.fields ∧ p.shownTime = q.shownTime := by
  rw [← String.toList_inj, toList_render, toList_render, hmeasurement] at h
  exact eq_of_behind_eq hp hq (List.append_cancel_left h)

end Point

end BleBeacon.Line
