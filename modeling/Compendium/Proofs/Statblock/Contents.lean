import Compendium.Proofs.Statblock.Feeds
import Compendium.Statblock.Lines
import Mathlib.Data.List.Infix

/-!
# What a statblock shows

A template shows a field if one of its parts fills it in as it is: by itself, with a dash for want of
it, or in a block that asks for it (`showsField`). What a part comes to stands in what the template
comes to (`infix_renderAll`), and collapsing and trimming do not break up a plain text. Main theorem
`shown_infix_text`: the layout of an entry can always be rendered, and each text of the entry that is
plain stands in its statblock as it is.
-/

namespace Compendium.Statblock

open Template

/-! ## Parts of a template -/

variable {root : Json} {fields : List (Text × Json)} {outer view : View} {name t : String}

/-- What a part comes to stands in what the template comes to. -/
theorem infix_renderAll {parts : Template} {p : TemplatePart} {cs : List Char} (hp : p ∈ parts)
    (h : renderAll root parts view = .ok cs) :
    ∃ out, renderPart root p view = .ok out ∧ out <:+: cs := by
  induction parts generalizing cs with
  | nil => exact absurd hp List.not_mem_nil
  | cons q rest ih =>
    rw [renderAll] at h
    cases hfront : renderPart root q view with
    | error fault =>
      rw [hfront] at h
      cases h
    | ok front =>
      cases hback : renderAll root rest view with
      | error fault =>
        rw [hfront, hback] at h
        cases h
      | ok back =>
        rw [hfront, hback] at h
        obtain rfl : front ++ back = cs := Except.ok.inj h
        rcases List.mem_cons.1 hp with rfl | hp
        · exact ⟨front, hfront, (List.prefix_append front back).isInfix⟩
        · obtain ⟨out, hout, hinfix⟩ := ih hp hback
          exact ⟨out, hout, hinfix.trans (List.suffix_append front back).isInfix⟩

/-- The part fills in a field as it is. -/
def isField (name : String) : TemplatePart → Bool
  | .value false [n] [] => n = name
  | _ => false

/-- The part shows a field as it is, if the field is present. -/
def showsField (name : String) : TemplatePart → Bool
  | .value false ["default"] [.path [n]] => n = name
  | .block "if" [.path [n]] body [] => n = name && body.any (isField name)
  | p => isField name p

theorem infix_orDash (t : String) : t.toList <:+: orDash (some t) := by
  by_cases ht : t = ""
  · subst ht
    exact List.nil_infix
  · simp [orDash, ht]

theorem renderPart_isField {p : TemplatePart} (h : Fields.get? fields name = some (.str t))
    (hn : IsFieldName name) (hp : isField name p = true) :
    renderPart root p (.scope (.obj fields) outer none) = .ok t.toList := by
  unfold isField at hp
  split at hp
  · obtain rfl := of_decide_eq_true hp
    exact renderPart_field (s := some t) h hn
  · cases hp

/-- A part that shows a field has its text. -/
theorem infix_of_showsField {p : TemplatePart} {out : List Char}
    (h : Fields.get? fields name = some (.str t)) (hn : IsFieldName name)
    (hp : showsField name p = true)
    (hout : renderPart root p (.scope (.obj fields) outer none) = .ok out) : t.toList <:+: out := by
  unfold showsField at hp
  split at hp
  · obtain rfl := of_decide_eq_true hp
    have hdash : renderPart root (fieldOrDash _) (.scope (.obj fields) outer none) =
        .ok (orDash (some t)) := renderPart_fieldOrDash h hn
    rw [fieldOrDash, hout] at hdash
    rw [Except.ok.inj hdash]
    exact infix_orDash t
  · rename_i body
    obtain ⟨hname, hbody⟩ := Bool.and_eq_true_iff.1 hp
    obtain rfl := of_decide_eq_true hname
    obtain ⟨q, hq, hfield⟩ := List.any_eq_true.1 hbody
    rw [renderPart_if h hn] at hout
    by_cases ht : t = ""
    · subst ht
      exact List.nil_infix
    · have htruthy : (Json.str t).truthy = true := by simp [Json.truthy, ht]
      rw [if_pos htruthy] at hout
      obtain ⟨text, htext, hinfix⟩ := infix_renderAll hq hout
      rw [renderPart_isField h hn hfield] at htext
      rwa [Except.ok.inj htext]
  · rw [renderPart_isField h hn hp] at hout
    rw [Except.ok.inj hout]

/-! ## Fields of an entry -/

/-- The fields that a template shows of every entry, each with its text if it is present. -/
def headingFields (h : Heading) : List (String × Option String) :=
  [("name", some h.name), ("description", h.description), ("source", h.source)]

/-- The fields that a template shows of an entry of its kind, each with its text if it is present. -/
def kindFields : Entry → List (String × Option String)
  | .creature c =>
    [("level", label c.level), ("ac", label c.ac), ("armor_type", label c.armorType),
     ("hp", label c.hp), ("attack", label c.attack), ("movement", label c.movement),
     ("alignment", c.alignment)]
  | .spell s =>
    [("tier", label s.tier), ("dc", label s.dc), ("duration", label s.duration),
     ("range", label s.range)]
  | .item i =>
    [("item_type", i.itemType), ("bonus", i.bonus), ("benefit", i.benefit),
     ("personality", i.personality), ("curse", i.curse)]

/-- The fields of an entry that its template shows as they are. -/
def shownFields (e : Entry) : List (String × Option String) :=
  headingFields e.heading ++ kindFields e

/-- A name, a full stop and a blank, and a description. -/
def actionText (a : Action) : String := a.name ++ ". " ++ a.description

/-- The texts that an entry has more than one of: the actions of a creature, the classes of a
spell. -/
def listedTexts : Entry → List String
  | .creature c => c.actions.map actionText
  | .spell s => s.classes.getD []
  | .item _ => []

/-- The texts of an entry that its statblock shows. -/
def shownTexts (e : Entry) : List String := (shownFields e).filterMap (·.2) ++ listedTexts e

theorem get?_context_of_headingFields {e : Entry} (h : (name, some t) ∈ headingFields e.heading)
    (hne : t ≠ "") : Fields.get? (context e) name = some (.str t) := by
  simp only [headingFields, List.mem_cons, Prod.mk.injEq, List.not_mem_nil, or_false] at h
  rcases h with ⟨rfl, hname⟩ | ⟨rfl, hdescription⟩ | ⟨rfl, hsource⟩
  · have hdash : nameOrDash e.name = t := by
      rw [Entry.name, ← Option.some.inj hname, nameOrDash, if_neg (by simpa using hne)]
    rw [← hdash]
    rfl
  · have hgiven : (e.description).getD "" = t := by
      rw [Entry.description, ← hdescription, Option.getD_some]
    rw [← hgiven]
    rfl
  · have hgiven : (e.source).getD "" = t := by
      rw [Entry.source, ← hsource, Option.getD_some]
    rw [← hgiven]
    rfl

theorem get?_context_of_kindFields {e : Entry} {s : Option String} (h : (name, s) ∈ kindFields e) :
    Fields.get? (context e) name = some (Json.ofText? s) := by
  cases e with
  | creature c =>
    simp only [kindFields, List.mem_cons, Prod.mk.injEq, List.not_mem_nil, or_false] at h
    rcases h with ⟨rfl, rfl⟩ | ⟨rfl, rfl⟩ | ⟨rfl, rfl⟩ | ⟨rfl, rfl⟩ | ⟨rfl, rfl⟩ | ⟨rfl, rfl⟩ |
      ⟨rfl, rfl⟩ <;> rfl
  | spell s =>
    simp only [kindFields, List.mem_cons, Prod.mk.injEq, List.not_mem_nil, or_false] at h
    rcases h with ⟨rfl, rfl⟩ | ⟨rfl, rfl⟩ | ⟨rfl, rfl⟩ | ⟨rfl, rfl⟩ <;> rfl
  | item i =>
    simp only [kindFields, List.mem_cons, Prod.mk.injEq, List.not_mem_nil, or_false] at h
    rcases h with ⟨rfl, rfl⟩ | ⟨rfl, rfl⟩ | ⟨rfl, rfl⟩ | ⟨rfl, rfl⟩ | ⟨rfl, rfl⟩ <;> rfl

/-- Each of these fields has a part of the layout that shows it. -/
theorem shown_of_mem_shownFields {e : Entry} {f : String × Option String}
    (h : f ∈ shownFields e) :
    IsFieldName f.1 ∧ (layout e.kind).any (showsField f.1) = true := by
  have hnames : ∀ n ∈ (shownFields e).map (·.1),
      IsFieldName n ∧ (layout e.kind).any (showsField n) = true := by
    cases e <;>
      simp only [shownFields, headingFields, kindFields, Entry.kind, layout, List.map,
        List.cons_append, List.nil_append] <;> decide
  exact hnames f.1 (List.mem_map_of_mem h)

theorem infix_lines_of_field {e : Entry} (h : (name, some t) ∈ shownFields e) :
    t.toList <:+: lines e := by
  by_cases hne : t = ""
  · subst hne
    exact List.nil_infix
  -- an empty name is shown as a dash, any other text is what the layout is given
  have hgiven : Fields.get? (context e) name = some (.str t) :=
    (List.mem_append.1 h).elim (fun h => get?_context_of_headingFields h hne)
      get?_context_of_kindFields
  obtain ⟨hname, hshown⟩ := shown_of_mem_shownFields h
  obtain ⟨p, hp, hshows⟩ := List.any_eq_true.1 hshown
  obtain ⟨out, hout, hinfix⟩ := infix_renderAll hp (render_layout e)
  exact (infix_of_showsField hgiven hname hshows hout).trans hinfix

/-! ## Actions and classes -/

theorem infix_actionLine (a : Action) : (actionText a).toList <:+: actionLine a := by
  by_cases hname : a.name = ""
  · refine ⟨placeholder.toList, "\n".toList, ?_⟩
    simp [actionText, actionLine, nameOrDash, hname]
  · refine ⟨[], "\n".toList, ?_⟩
    simp [actionText, actionLine, nameOrDash, hname]

theorem infix_intercalate {texts : List String} (between : String) (h : t ∈ texts) :
    t.toList <:+: (between.intercalate texts).toList := by
  induction texts with
  | nil => exact absurd h List.not_mem_nil
  | cons u rest ih =>
    by_cases hrest : rest = []
    · subst hrest
      rw [List.mem_singleton.1 h, String.intercalate_singleton]
    · rw [String.intercalate_cons_of_ne_nil hrest, String.toList_append, String.toList_append]
      rcases List.mem_cons.1 h with rfl | h
      · rw [List.append_assoc]
        exact (List.prefix_append ..).isInfix
      · exact (ih h).trans (List.suffix_append ..).isInfix

theorem infix_classesText {classes : List String} (h : t ∈ classes) :
    t.toList <:+: classesText classes := by
  have hne : ¬ classes.isEmpty = true := by
    rw [List.isEmpty_iff]
    exact List.ne_nil_of_mem h
  rw [classesText, if_neg hne]
  exact (infix_intercalate ", " h).trans (List.suffix_append ..).isInfix

theorem infix_lines_of_listed {e : Entry} (h : t ∈ listedTexts e) : t.toList <:+: lines e := by
  cases e with
  | creature c =>
    obtain ⟨a, ha, rfl⟩ := List.mem_map.1 h
    have hpart : .block "each" [.path ["actions"]] actionLayout [] ∈ creatureLayout := by
      simp [creatureLayout]
    obtain ⟨out, hout, hinfix⟩ := infix_renderAll hpart (render_creatureLayout c)
    have hlines : out = c.actions.flatMap actionLine :=
      Except.ok.inj (hout.symm.trans (renderPart_each rfl (by decide) fun a => renderAll_action a _))
    rw [hlines] at hinfix
    have hline : actionLine a <:+: c.actions.flatMap actionLine :=
      List.infix_of_mem_flatten (List.mem_map_of_mem ha)
    exact ((infix_actionLine a).trans hline).trans hinfix
  | spell s =>
    have hpart : ifPresent "classes" [.text ", ", classList "classes"] ∈ spellLayout := by
      simp [spellLayout]
    obtain ⟨out, hout, hinfix⟩ := infix_renderAll hpart (render_spellLayout s)
    have hlines : out = classesText (s.classes.getD []) :=
      Except.ok.inj (hout.symm.trans (renderPart_ifClasses rfl (by decide)))
    rw [hlines] at hinfix
    exact (infix_classesText h).trans hinfix
  | item i => exact absurd h List.not_mem_nil

theorem infix_lines {e : Entry} (h : t ∈ shownTexts e) : t.toList <:+: lines e := by
  rcases List.mem_append.1 h with h | h
  · obtain ⟨⟨name, s⟩, hf, rfl⟩ := List.mem_filterMap.1 h
    exact infix_lines_of_field hf
  · exact infix_lines_of_listed h

/-! ## The text -/

/-- The text is there to be shown: it is not empty, has no blanks at its ends, and is one line. -/
structure IsPlain (t : String) : Prop where
  ne : t ≠ ""
  trimmed : Text.Trimmed t.toList
  noFeed : '\n' ∉ t.toList

instance (t : String) : Decidable (IsPlain t) :=
  decidable_of_iff (t ≠ "" ∧ Text.Trimmed t.toList ∧ '\n' ∉ t.toList)
    ⟨fun ⟨hne, htrimmed, hfeed⟩ => ⟨hne, htrimmed, hfeed⟩,
      fun h => ⟨h.ne, h.trimmed, h.noFeed⟩⟩

/-- **A statblock shows what its entry holds.** The layout of an entry can be rendered, whatever the
entry holds, and each of its texts that is plain stands in the statblock as it is. -/
theorem shown_infix_text (e : Entry) :
    (∃ cs, render (layout e.kind) (.obj (context e)) = .ok cs ∧
      text e = String.ofList (Text.trimChars (collapse cs))) ∧
    ∀ t ∈ shownTexts e, IsPlain t → t.toList <:+: (text e).toList := by
  refine ⟨⟨lines e, render_layout e, by rw [text, laidOut_eq_lines]⟩, ?_⟩
  intro t ht hplain
  have hne : t.toList ≠ [] := fun h => hplain.ne (String.toList_eq_nil_iff.1 h)
  rw [text, String.toList_ofList, laidOut_eq_lines, Text.infix_trimChars_iff hne hplain.trimmed]
  exact infix_collapse hplain.noFeed (infix_lines ht)

/-- A creature of level nought, with blank lines in its description and an action. -/
def lurker : Entry :=
  .creature
    { name := "Lurker", description := some "It waits.\n\n\n\nIt is <patient>.", source := none,
      level := some (.int 0), alignment := none, ac := some (.text "8 + shell"), armorType := none,
      hp := none, attack := none, movement := none, stats := none,
      actions := [⟨"Grasp", "Holds & drags."⟩] }

theorem shown_infix_text_lurker :
    ("0" ∈ shownTexts lurker ∧ IsPlain "0" ∧ "0".toList <:+: (text lurker).toList) ∧
    ("Grasp. Holds & drags." ∈ shownTexts lurker ∧ IsPlain "Grasp. Holds & drags." ∧
      "Grasp. Holds & drags.".toList <:+: (text lurker).toList) := by
  have hlevel : "0" ∈ shownTexts lurker := by decide
  have haction : "Grasp. Holds & drags." ∈ shownTexts lurker := by decide
  have hplain : IsPlain "0" ∧ IsPlain "Grasp. Holds & drags." := by decide
  have hshown := (shown_infix_text lurker).2
  exact ⟨⟨hlevel, hplain.1, hshown _ hlevel hplain.1⟩,
    ⟨haction, hplain.2, hshown _ haction hplain.2⟩⟩

end Compendium.Statblock
