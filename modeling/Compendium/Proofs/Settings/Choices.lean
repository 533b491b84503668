import Compendium.Proofs.Server.Forms
import Compendium.Settings

/-!
# Choices

The settings are twelve choices: the category, the source, the width, and the family, size and style
of each font group. Each has a place in the settings and in a form, a type, and a value before it is
made. Main theorem `merge_of_read`: merging what was read from a form makes the choices that the
form gives a value for, each by itself, and no other. So nulls, unknown groups and unknown fields
change nothing.
-/

namespace Compendium

/-! ## What there is to choose -/

/-- What a font is used for. -/
inductive FontGroup where
  | body
  | heading
  | statblock
deriving DecidableEq, Repr

inductive FontField where
  | family
  | size
  | style
deriving DecidableEq, Repr

/-- What a reader may choose. -/
inductive Choice where
  | category
  | source
  | width
  | font (g : FontGroup) (f : FontField)
deriving DecidableEq, Repr

def FontGroup.all : List FontGroup := [.body, .heading, .statblock]

def FontGroup.name : FontGroup → String
  | .body => "body"
  | .heading => "heading"
  | .statblock => "statblock"

namespace FontField

def all : List FontField := [.family, .size, .style]

def name : FontField → String
  | .family => "family"
  | .size => "size"
  | .style => "style"

def type : FontField → Form.ValueType
  | .size => .whole
  | _ => .text

end FontField

/-- What a value holds at the end of a path of names. -/
def Json.at? : List String → Json → Option Json
  | [], v => some v
  | name :: path, .obj fields => (Fields.get? fields name).bind (Json.at? path)
  | _ :: _, _ => none

namespace Choice

/-- The names on the way to the value of a choice. -/
def path : Choice → List String
  | .category => ["default_category"]
  | .source => ["show_source"]
  | .width => ["app_width_percent"]
  | .font g f => ["font_settings", g.name, f.name]

def type : Choice → Form.ValueType
  | .category => .category
  | .source => .flag
  | .width => .whole
  | .font _ f => f.type

/-- The values of the fields of an upright font. -/
def uprightFont (family : String) (size : Int) : FontField → Json
  | .family => .str family
  | .size => .int size
  | .style => .str "normal"

def default : Choice → Json
  | .category => .str "all"
  | .source => .bool true
  | .width => .int 100
  | .font .body f => uprightFont "Crimson Text" 18 f
  | .font .heading f => uprightFont "Cinzel" 20 f
  | .font .statblock f => uprightFont "Crimson Text" 16 f

/-- The value that a form gives for a choice: what it holds there, if that is not null and is taken
for a value of the type. -/
def given? (form : Json) (c : Choice) : Option Json := Form.taken? c.type.check (form.at? c.path)

/-- The choices after those that a form gives a value for. -/
def updated (value : Choice → Json) (form : Json) : Choice → Json :=
  fun c => (c.given? form).getD (value c)

def Valid (value : Choice → Json) : Prop := ∀ c : Choice, c.type.Admits (value c)

theorem admits_uprightFont (family : String) {size : Int} (h : Json.IsShort size) (f : FontField) :
    f.type.Admits (uprightFont family size f) := by
  cases f with
  | family => exact .text family
  | size => exact .whole h
  | style => exact .text "normal"

theorem valid_default : Valid default := by
  intro c
  cases c with
  | category => exact .category .all
  | source => exact .flag true
  | width => exact .whole (by decide)
  | font g f => cases g <;> exact admits_uprightFont _ (by decide) f

theorem tidy_of_at? {v w : Json} {path : List String} (hv : v.Tidy) (h : v.at? path = some w) :
    w.Tidy := by
  induction path generalizing v with
  | nil =>
    obtain rfl : v = w := Option.some.inj h
    exact hv
  | cons name path ih =>
    cases v with
    | obj fields =>
      obtain ⟨u, hu, hw⟩ := Option.bind_eq_some_iff.1 h
      exact ih (hv.get? hu) hw
    | _ => exact absurd h (by simp [Json.at?])

theorem admits_given? {form v : Json} {c : Choice} (hform : form.Tidy) (h : c.given? form = some v) :
    c.type.Admits v := by
  obtain ⟨u, hat, hcheck⟩ := Form.of_taken?_eq_some h
  exact Form.ValueType.admits_of_check (tidy_of_at? hform hat) hcheck

theorem valid_updated {value : Choice → Json} {form : Json} (hvalue : Valid value)
    (hform : form.Tidy) : Valid (updated value form) := by
  intro c
  unfold updated
  cases h : c.given? form with
  | none => exact hvalue c
  | some v => exact admits_given? hform h

end Choice

/-! ## Settings by their choices -/

/-- The fields of a font by their values. -/
def fontFields (value : FontField → Json) : List (Text × Json) :=
  FontField.all.map fun f => (f.name, value f)

namespace Settings

def ofValues (value : Choice → Json) : Settings where
  defaultCategory := value .category
  showSource := value .source
  appWidthPercent := value .width
  body := fontFields fun f => value (.font .body f)
  heading := fontFields fun f => value (.font .heading f)
  statblock := fontFields fun f => value (.font .statblock f)

theorem defaults_eq : defaults = ofValues Choice.default := rfl

def fontOf (s : Settings) : FontGroup → List (Text × Json)
  | .body => s.body
  | .heading => s.heading
  | .statblock => s.statblock

def setFont (s : Settings) (fields : List (Text × Json)) : FontGroup → Settings
  | .body => { s with body := fields }
  | .heading => { s with heading := fields }
  | .statblock => { s with statblock := fields }

theorem fontOf_ofValues (value : Choice → Json) (g : FontGroup) :
    (ofValues value).fontOf g = fontFields fun f => value (.font g f) := by
  cases g <;> rfl

theorem mergeGroup_name (s : Settings) (g : FontGroup) (fields : List (Text × Json)) :
    s.mergeGroup (g.name, .obj fields) = s.setFont (Fields.putAll (s.fontOf g) fields) g := by
  cases g <;> rfl

/-- The font fields that a form may set. -/
def wantedFields : List (String × (Json → Except FieldFault Json)) :=
  FontField.all.map fun f => (f.name, f.type.check)

/-! ## Font groups -/

/-- Setting fields of a font sets each by itself. -/
theorem putAll_fontFields (value : FontField → Json) (place : List String)
    (fields : List (Text × Json)) :
    Fields.putAll (fontFields value) (Form.readFields place fields wantedFields).fields =
      fontFields fun f => (Form.taken? f.type.check (Fields.get? fields f.name)).getD (value f) := by
  rw [Form.fields_readFields]
  simp only [wantedFields, fontFields, FontField.all, List.map_cons, List.map_nil,
    List.flatMap_cons, List.flatMap_nil]
  -- A value that is taken overwrites its field where it stands, so the order stays as it is.
  rcases Form.taken? FontField.family.type.check (Fields.get? fields FontField.family.name) with _ | a <;>
    rcases Form.taken? FontField.size.type.check (Fields.get? fields FontField.size.name) with _ | b <;>
    rcases Form.taken? FontField.style.type.check (Fields.get? fields FontField.style.name) with _ | c <;>
    rfl

/-- The choices after those that a font group of that name gives a value for. -/
def groupUpdated (value : Choice → Json) (group : Text × Json) : Choice → Json
  | .font g f =>
    if (g.name : Text) = group.1 then
      (Form.taken? f.type.check (group.2.at? [f.name])).getD (value (.font g f))
    else value (.font g f)
  | c => value c

/-- The choices after those that font groups, if there are any, give a value for. -/
def fontsUpdated (value : Choice → Json) (groups : Option Json) : Choice → Json
  | .font g f =>
    (Form.taken? f.type.check (groups.bind (Json.at? [g.name, f.name]))).getD (value (.font g f))
  | c => value c

theorem setFont_ofValues (value : Choice → Json) (v : Json) (g : FontGroup) :
    (ofValues value).setFont (fontFields fun f =>
        (Form.taken? f.type.check (v.at? [f.name])).getD (value (.font g f))) g =
      ofValues (groupUpdated value (g.name, v)) := by
  cases g <;> rfl

theorem at?_obj_single (fields : List (Text × Json)) (name : String) :
    (Json.obj fields).at? [name] = Fields.get? fields name := Option.bind_fun_some _

theorem groupUpdated_of_not_obj {v : Json} (hv : ∀ fields, v ≠ .obj fields)
    (value : Choice → Json) (name : Text) : groupUpdated value (name, v) = value := by
  have hnone : ∀ f : FontField, v.at? [f.name] = none := by
    intro f
    cases v with
    | obj fields => exact absurd rfl (hv fields)
    | _ => rfl
  funext c
  cases c with
  | font g f => simp [groupUpdated, hnone, Form.taken?]
  | _ => rfl

theorem groupUpdated_of_not_name {name : Text} (hname : ∀ g : FontGroup, (g.name : Text) ≠ name)
    (value : Choice → Json) (v : Json) : groupUpdated value (name, v) = value := by
  funext c
  cases c with
  | font g f => simp [groupUpdated, hname g]
  | _ => rfl

theorem mergeGroup_of_not_name {name : Text} (hname : ∀ g : FontGroup, (g.name : Text) ≠ name)
    (s : Settings) (v : Json) : mergeGroup s (name, v) = s := by
  unfold mergeGroup
  split
  · rename_i heq
    exact absurd (Prod.mk.inj heq).1.symm (hname .body)
  · rename_i heq
    exact absurd (Prod.mk.inj heq).1.symm (hname .heading)
  · rename_i heq
    exact absurd (Prod.mk.inj heq).1.symm (hname .statblock)
  · rfl

/-- A group that a form gives is merged field by field, if it is one that there is. -/
theorem foldl_readGroup (value : Choice → Json) (place : List String) (group : Text × Json) :
    (Form.readGroup place group).fields.foldl mergeGroup (ofValues value) =
      ofValues (groupUpdated value group) := by
  obtain ⟨name, v⟩ := group
  cases v with
  | obj fields =>
    have hfields : (Form.readGroup place (name, .obj fields)).fields =
        [(name, .obj (Form.readFields (place ++ [Form.placeName name]) fields wantedFields).fields)] := rfl
    rw [hfields, List.foldl_cons, List.foldl_nil]
    by_cases hname : ∃ g : FontGroup, (g.name : Text) = name
    · obtain ⟨g, rfl⟩ := hname
      rw [mergeGroup_name, fontOf_ofValues, putAll_fontFields, ← setFont_ofValues]
      simp only [at?_obj_single]
    · have hother : ∀ g : FontGroup, (g.name : Text) ≠ name := fun g hg => hname ⟨g, hg⟩
      rw [mergeGroup_of_not_name hother, groupUpdated_of_not_name hother]
  | _ => rw [groupUpdated_of_not_obj (by simp)]; rfl

theorem fontsUpdated_of_not_obj {v : Option Json} (hv : ∀ groups, v ≠ some (.obj groups))
    (value : Choice → Json) : fontsUpdated value v = value := by
  have hnone : ∀ g f : String, v.bind (Json.at? [g, f]) = none := by
    intro g f
    rcases v with _ | u
    · rfl
    · cases u with
      | obj groups => exact absurd rfl (hv groups)
      | _ => rfl
  funext c
  cases c with
  | font g f => simp only [fontsUpdated, hnone, Form.taken?, Option.getD_none]
  | _ => rfl

/-- Of the groups of a form, the first is merged, and then the others, which have other names. -/
theorem fontsUpdated_cons {group : Text × Json} {groups : List (Text × Json)}
    (hgroups : (Fields.names (group :: groups)).Nodup) (value : Choice → Json) :
    fontsUpdated value (some (.obj (group :: groups))) =
      fontsUpdated (groupUpdated value group) (some (.obj groups)) := by
  obtain ⟨name, v⟩ := group
  have hnames : Fields.names ((name, v) :: groups) = name :: Fields.names groups := rfl
  rw [hnames, List.nodup_cons] at hgroups
  funext c
  cases c with
  | font g f =>
    by_cases h : (g.name : Text) = name
    · subst h
      simp only [fontsUpdated, groupUpdated, Option.bind_some, Json.at?, Fields.get?_cons, if_true,
        Fields.get?_eq_none_iff.2 hgroups.1, Option.bind_none, Form.taken?, Option.getD_none]
    · simp only [fontsUpdated, groupUpdated, Option.bind_some, Json.at?, Fields.get?_cons, h, if_false]
  | _ => rfl

/-- The font groups of a form are merged choice by choice. -/
theorem foldl_readGroups {groups : List (Text × Json)} (hgroups : (Fields.names groups).Nodup)
    (value : Choice → Json) (place : List String) :
    (groups.flatMap fun g => (Form.readGroup place g).fields).foldl mergeGroup (ofValues value) =
      ofValues (fontsUpdated value (some (.obj groups))) := by
  induction groups generalizing value with
  | nil => rfl
  | cons group groups ih =>
    have hrest : (Fields.names groups).Nodup := (List.nodup_cons.1 hgroups).2
    rw [List.flatMap_cons, List.foldl_append, foldl_readGroup, ih hrest, fontsUpdated_cons hgroups]

/-! ## Merging -/

theorem fields_readGroups (place : List String) (fields : List (Text × Json)) :
    (Form.readGroups place fields).fields =
      match Fields.get? fields "font_settings" with
      | some (.obj groups) => [("font_settings", .obj
          (groups.flatMap fun g => (Form.readGroup (place ++ ["font_settings"]) g).fields))]
      | _ => [] := by
  unfold Form.readGroups
  cases Fields.get? fields "font_settings" with
  | none => rfl
  | some v =>
    cases v with
    | obj groups =>
      dsimp only
      rw [Form.fields_foldl_append, List.flatMap_map]
      rfl
    | _ => rfl

/-- The fields beside the font groups that a form may set. -/
def wantedSettings : List (String × (Json → Except FieldFault Json)) :=
  [("default_category", Form.readCategory), ("show_source", Form.readFlag),
    ("app_width_percent", Form.readWhole)]

theorem get?_readAll (place : List String) (fields : List (Text × Json)) (name : String) :
    Fields.get? (Form.readAll place fields).fields name =
      ((Fields.get? wantedSettings name).bind fun check =>
        Form.taken? check (Fields.get? fields name)).or
        (Fields.get? (Form.readGroups place fields).fields name) := by
  have hread := Form.get?_readFields wantedSettings (by decide) place fields name
  rw [← hread]
  exact Fields.get?_append _ _ (Text.chars name)

theorem get?_readAll_wanted (name : String) {check : Json → Except FieldFault Json}
    (hwanted : Fields.get? wantedSettings name = some check) (hname : name ≠ "font_settings")
    (place : List String) (fields : List (Text × Json)) :
    Fields.get? (Form.readAll place fields).fields name =
      Form.taken? check (Fields.get? fields name) := by
  have hnone : Fields.get? (Form.readGroups place fields).fields name = none := by
    rw [fields_readGroups]
    split
    · rw [Fields.get?_cons, if_neg (by simpa using hname)]
      rfl
    · rfl
  rw [get?_readAll, hwanted, hnone, Option.or_none, Option.bind_some]

theorem mergeFonts_readGroups {fields : List (Text × Json)}
    (hgroups : ∀ groups, Fields.get? fields "font_settings" = some (.obj groups) →
      (Fields.names groups).Nodup) (value : Choice → Json) (place : List String) :
    (ofValues value).mergeFonts (Fields.get? (Form.readGroups place fields).fields "font_settings") =
      .ok (ofValues (fontsUpdated value (Fields.get? fields "font_settings"))) := by
  rw [fields_readGroups]
  split
  · rename_i groups hfonts
    rw [hfonts, ← foldl_readGroups (hgroups groups hfonts) value (place ++ ["font_settings"])]
    rfl
  · rename_i hfonts
    rw [fontsUpdated_of_not_obj hfonts]
    rfl

/-- **Merging what was read from a form makes the choices that the form gives a value for.** -/
theorem merge_of_read {form w : Json} (hform : form.Tidy) (hread : Form.read form = .ok w)
    (value : Choice → Json) :
    (ofValues value).merge w = .ok (ofValues (Choice.updated value form)) := by
  obtain ⟨fields, rfl, -, rfl⟩ := Form.read_eq_ok_iff.1 hread
  have hgroups : ∀ groups, Fields.get? fields "font_settings" = some (.obj groups) →
      (Fields.names groups).Nodup := by
    intro groups hfonts
    cases hform.get? hfonts with
    | obj nodup _ => exact nodup
  -- The three settings beside the groups; the groups are merged over them.
  let before : Choice → Json
    | .font g f => value (.font g f)
    | c => Choice.updated value (.obj fields) c
  have hmerge : (ofValues value).mergeFields (Form.readAll ["body"] fields).fields =
      (ofValues before).mergeFonts
        (Fields.get? (Form.readGroups ["body"] fields).fields "font_settings") := by
    have hcategory := get?_readAll_wanted "default_category" rfl (by decide) ["body"] fields
    have hsource := get?_readAll_wanted "show_source" rfl (by decide) ["body"] fields
    have hwidth := get?_readAll_wanted "app_width_percent" rfl (by decide) ["body"] fields
    have hfonts := get?_readAll ["body"] fields "font_settings"
    rw [mergeFields, hcategory, hsource, hwidth, hfonts]
    simp only [← at?_obj_single]
    rfl
  have hafter : Choice.updated value (.obj fields) =
      fontsUpdated before (Fields.get? fields "font_settings") := by
    funext c
    cases c <;> rfl
  rw [hafter]
  exact hmerge.trans (mergeFonts_readGroups hgroups before ["body"])

end Settings

end Compendium
