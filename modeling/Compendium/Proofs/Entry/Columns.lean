import Compendium.Entry.Record

/-!
# Columns of a record

What a kind of entry is made of, as a list of columns. A column has a name, perhaps a second
spelling, and the shape that its value is declared to have. A value that is given is first fitted to
the shape, so that what has the wrong form counts as absent, and what comes of it is checked against
the shape; a value that is not given is taken from the shape and not checked. No name stands for two
columns (`eq_of_mem_names`). Main statements: the check finds nothing in a record whose kind is set
(`misfits_tagged`), and its columns are the fields of the entry that is read from it
(`validate_tagged`).
-/

namespace Compendium

namespace Json

def isText : Json → Bool
  | .str _ => true
  | _ => false

def isScalar : Json → Bool
  | .int _ | .float _ | .str _ => true
  | _ => false

def isAction : Json → Bool
  | .obj [("name", name), ("description", description)] => name.isText && description.isText
  | _ => false

/-- The value is an object of scalars. -/
def isStats : Json → Bool
  | .obj fields => fields.all (·.2.isScalar)
  | _ => false

/-- The value is a list of which every item passes the test. -/
def isListOf (test : Json → Bool) : Json → Bool
  | .arr items => items.all test
  | _ => false

/-- The value is absent or passes the test. -/
def isAbsentOr (test : Json → Bool) : Json → Bool
  | .null => true
  | v => test v

end Json

def actionsToJson (actions : List Action) : Json := .arr (actions.map fun a => .obj a.toFields)

open Json

/-- What a column is declared to hold. -/
inductive Shape where
  | name
  | text
  | scalar
  | stats
  | actions
  | texts
  | label (k : Kind)
deriving DecidableEq, Repr

namespace Shape

def admits : Shape → Json → Bool
  | .name => isText
  | .text => isAbsentOr isText
  | .scalar => isAbsentOr isScalar
  | .stats => isAbsentOr isStats
  | .actions => isListOf isAction
  | .texts => isAbsentOr (isListOf isText)
  | .label k => fun
    | .str s => s = k.label
    | _ => false

/-- What stands for a value that is not given. -/
def absent : Shape → Json
  | .name => .str ""
  | .actions => .arr []
  | .label k => .str k.label
  | _ => .null

/-- The value fitted to the shape. The label of a kind is left as it is given. -/
def fit : Shape → Json → Json
  | .name, v => .str (v.asText?.getD "")
  | .text, v => ofText? v.asText?
  | .scalar, v => Scalar.orNull v.asScalar?
  | .stats, v => (v.asFields?.map fun fields => statsToJson (statsOfFields fields)).getD .null
  | .actions, v => actionsToJson (((v.asItems?.getD []).filterMap asFields?).map Action.ofFields)
  | .texts, v => (v.asItems?.map fun items => ofTexts (items.filterMap asStr?)).getD .null
  | .label _, v => v

/-- What a column of the shape holds, given a value or none. -/
def held (shape : Shape) (given : Option Json) : Json := (given.map shape.fit).getD shape.absent

/-! ## What is fitted is of the shape -/

theorem isScalar_toJson (s : Scalar) : s.toJson.isScalar = true := by
  cases s <;> rfl

theorem isText_ofText? (s : Option String) : isAbsentOr isText (ofText? s) = true := by
  cases s <;> rfl

theorem isScalar_orNull (s : Option Scalar) : isAbsentOr isScalar (Scalar.orNull s) = true := by
  cases s with
  | none => rfl
  | some s => cases s <;> rfl

theorem isStats_statsToJson (stats : List (String × Scalar)) : (statsToJson stats).isStats = true := by
  simp [statsToJson, isStats, isScalar_toJson]

theorem isListOf_actionsToJson (actions : List Action) :
    isListOf isAction (actionsToJson actions) = true := by
  simp [actionsToJson, isListOf, isAction, Action.toFields, isText]

theorem isListOf_ofTexts (texts : List String) : isListOf isText (ofTexts texts) = true := by
  simp [ofTexts, isListOf, isText]

/-- **Whatever a value is, it has the shape once it is fitted**; only the label of a kind may not be
the one that is asked for. -/
theorem admits_fit (shape : Shape) (v : Json) (h : ∀ k, shape = .label k → v = .str k.label) :
    shape.admits (shape.fit v) = true := by
  cases shape with
  | name => rfl
  | text => exact isText_ofText? _
  | scalar => exact isScalar_orNull _
  | stats =>
    cases hfields : v.asFields? with
    | none => simp [admits, fit, hfields, isAbsentOr]
    | some fields => simpa [admits, fit, hfields, statsToJson, isAbsentOr] using isStats_statsToJson _
  | actions => exact isListOf_actionsToJson _
  | texts =>
    cases hitems : v.asItems? with
    | none => simp [admits, fit, hitems, isAbsentOr]
    | some items => simpa [admits, fit, hitems, ofTexts, isAbsentOr] using isListOf_ofTexts _
  | label k => simp [h k rfl, admits, fit]

/-! ## What is held -/

section
variable (given : Option Json)

@[simp]
theorem held_name : name.held given = .str ((given.bind asText?).getD "") := by
  cases given <;> rfl

@[simp]
theorem held_text : text.held given = ofText? (given.bind asText?) := by
  cases given <;> rfl

@[simp]
theorem held_scalar : scalar.held given = Scalar.orNull (given.bind asScalar?) := by
  cases given <;> rfl

@[simp]
theorem held_stats : stats.held given =
    (((given.bind asFields?).map statsOfFields).map statsToJson).getD .null := by
  cases given with
  | none => rfl
  | some v => simp [held, fit, Function.comp_def]

@[simp]
theorem held_actions : actions.held given =
    actionsToJson ((((given.bind asItems?).getD []).filterMap asFields?).map Action.ofFields) := by
  cases given <;> rfl

@[simp]
theorem held_texts : texts.held given =
    (((given.bind asItems?).map (·.filterMap asStr?)).map ofTexts).getD .null := by
  cases given with
  | none => rfl
  | some v => simp [held, fit, Function.comp_def]

@[simp]
theorem held_label (k : Kind) (v : Json) : (label k).held (some v) = v := rfl

end

end Shape

/-- A name in a record, perhaps a second spelling of it, and the shape of what stands there. -/
structure Column where
  name : String
  spelling : Option String
  shape : Shape
deriving DecidableEq, Repr

namespace Column

/-- The value that a record gives for the column; the name goes before the second spelling. -/
def given? (c : Column) (fields : List (Text × Json)) : Option Json :=
  (Fields.get? fields c.name).or (c.spelling.bind fun name => Fields.get? fields name)

def read (c : Column) (fields : List (Text × Json)) : Json := c.shape.held (c.given? fields)

/-- The spellings of the name of the column. -/
def names (c : Column) : List String := c.name :: c.spelling.toList

/-- The value that is given for the column, once fitted, is of its shape. -/
def accepts (c : Column) (fields : List (Text × Json)) : Bool :=
  (c.given? fields).all fun v => c.shape.admits (c.shape.fit v)

/-- What is given for a column depends on its names alone. -/
theorem given?_congr {c : Column} {fields fields' : List (Text × Json)}
    (h : ∀ name ∈ c.names, Fields.get? fields name = Fields.get? fields' name) :
    c.given? fields = c.given? fields' := by
  have hspelling : (c.spelling.bind fun name => Fields.get? fields name) =
      c.spelling.bind fun name => Fields.get? fields' name := by
    cases hc : c.spelling with
    | none => rfl
    | some second => exact h second (by simp [names, hc])
  rw [given?, given?, h c.name (by simp [names]), hspelling]

end Column

namespace Entry

/-- The columns of every kind. -/
def headingColumns (k : Kind) : List Column :=
  [⟨"name", none, .name⟩, ⟨"description", none, .text⟩, ⟨"source", none, .text⟩,
   ⟨"kind", none, .label k⟩]

/-- The columns of a kind beside those of every kind. -/
def ownColumns : Kind → List Column
  | .creature =>
    [⟨"level", none, .scalar⟩, ⟨"alignment", none, .text⟩, ⟨"ac", none, .scalar⟩,
     ⟨"armorType", some "armor_type", .scalar⟩, ⟨"hp", none, .scalar⟩, ⟨"attack", none, .scalar⟩,
     ⟨"movement", none, .scalar⟩, ⟨"stats", none, .stats⟩, ⟨"actions", none, .actions⟩]
  | .spell =>
    [⟨"tier", none, .scalar⟩, ⟨"dc", none, .scalar⟩, ⟨"duration", none, .scalar⟩,
     ⟨"range", none, .scalar⟩, ⟨"classes", none, .texts⟩]
  | .item =>
    [⟨"itemType", some "item_type", .text⟩, ⟨"bonus", none, .text⟩, ⟨"benefit", none, .text⟩,
     ⟨"personality", none, .text⟩, ⟨"curse", none, .text⟩]

/-- The columns of a kind, in the order of the fields of its entries. -/
def columns (k : Kind) : List Column := headingColumns k ++ ownColumns k

/-- The columns that hold something of another shape than theirs. -/
def misfits (k : Kind) (fields : List (Text × Json)) : List Column :=
  (columns k).filter fun c => !c.accepts fields

/-- What the columns of a record hold, unless some hold what they should not. -/
def validate (k : Kind) (fields : List (Text × Json)) :
    Except (List Column) (List (Text × Json)) :=
  if (misfits k fields).isEmpty then .ok ((columns k).map fun c => (.chars c.name, c.read fields))
  else .error (misfits k fields)

/-- A record with its kind set, whatever kind it names. -/
def tagged (k : Kind) (fields : List (Text × Json)) : List (Text × Json) :=
  Fields.put fields "kind" (.str k.label)

/-- The column of the kind itself. -/
def kindColumn (k : Kind) : Column := ⟨"kind", none, .label k⟩

/-! ## Names of columns -/

theorem kindColumn_mem (k : Kind) : kindColumn k ∈ columns k := by
  simp [kindColumn, columns, headingColumns]

/-- No name stands for two columns. -/
theorem eq_of_mem_names {k : Kind} {c d : Column} (hc : c ∈ columns k) (hd : d ∈ columns k)
    {name : String} (hname : name ∈ c.names) (hname' : name ∈ d.names) : c = d := by
  have hall : ∀ c ∈ columns k, ∀ d ∈ columns k, ∀ name ∈ c.names, name ∈ d.names → c = d := by
    cases k <;> decide
  exact hall c hc d hd name hname hname'

theorem names_toFields (e : Entry) :
    Fields.names e.toFields = (columns e.kind).map fun c => .chars c.name := by
  cases e <;> rfl

/-! ## Records whose kind is set -/

theorem get?_tagged (k : Kind) (fields : List (Text × Json)) (name : String) :
    Fields.get? (tagged k fields) name =
      if name = "kind" then some (.str k.label) else Fields.get? fields name := by
  simp [tagged, Fields.get?_put]

/-- Only the column of the kind has a label, and it has no other spelling. -/
theorem label_column {k l : Kind} {c : Column} (hc : c ∈ columns k) (hl : c.shape = .label l) :
    c = kindColumn k := by
  have hall : ∀ k, ∀ c ∈ columns k, (∃ l, c.shape = .label l) → c = kindColumn k := by
    intro k
    cases k <;> simp [columns, headingColumns, ownColumns, kindColumn]
  exact hall k c hc ⟨l, hl⟩

theorem read_kindColumn (k : Kind) (fields : List (Text × Json)) :
    (kindColumn k).read (tagged k fields) = .str k.label := by
  simp [kindColumn, Column.read, Column.given?, get?_tagged]

/-- Setting the kind leaves what is given for the other columns. -/
theorem given?_tagged {k : Kind} {c : Column} (hc : c ∈ columns k) (hkind : c ≠ kindColumn k)
    (fields : List (Text × Json)) : c.given? (tagged k fields) = c.given? fields := by
  refine Column.given?_congr fun name hname => ?_
  rw [get?_tagged, if_neg]
  rintro rfl
  exact hkind (eq_of_mem_names hc (kindColumn_mem k) hname (List.mem_singleton.2 rfl))

theorem accepts_tagged {k : Kind} {c : Column} (hc : c ∈ columns k) (fields : List (Text × Json)) :
    c.accepts (tagged k fields) = true := by
  rw [Column.accepts, Option.all_eq_true]
  intro v hv
  refine c.shape.admits_fit v fun l hl => ?_
  obtain rfl := label_column hc hl
  simp [kindColumn, Column.given?, get?_tagged] at hv
  simp [kindColumn] at hl
  rw [← hv, hl]

/-- **A record whose kind is set fits its columns**, whatever values stand in it. -/
theorem misfits_tagged (k : Kind) (fields : List (Text × Json)) :
    misfits k (tagged k fields) = [] := by
  rw [misfits, List.filter_eq_nil_iff]
  intro c hc
  simp [accepts_tagged hc]

/-! ## The entry that is read -/

theorem toFields_heading (k : Kind) (fields : List (Text × Json)) :
    (Heading.ofFields fields).toFields k =
      (headingColumns k).map fun c => (.chars c.name, c.read (tagged k fields)) := by
  simp [headingColumns, Column.read, Column.given?, get?_tagged, Heading.ofFields, Heading.toFields,
    textField]

/-- The fields of the entry that is read from a record are what its columns hold. -/
theorem toFields_ofFields (k : Kind) (fields : List (Text × Json)) :
    (ofFields k fields).toFields = (columns k).map fun c => (.chars c.name, c.read (tagged k fields)) := by
  rw [columns, List.map_append, ← toFields_heading]
  cases k with
  | creature =>
    simp [ofFields, toFields, heading, kind, Creature.ofFields, Creature.toFields, ownColumns,
      Column.read, Column.given?, get?_tagged, textField, scalarField, spelled?, actionsToJson]
  | spell =>
    simp [ofFields, toFields, heading, kind, Spell.ofFields, Spell.toFields, ownColumns,
      Column.read, Column.given?, get?_tagged, scalarField]
  | item =>
    simp [ofFields, toFields, heading, kind, Item.ofFields, Item.toFields, ownColumns,
      Column.read, Column.given?, get?_tagged, textField, spelled?]

/-- **A record whose kind is set gives an entry**, and its columns are the fields of that entry. -/
theorem validate_tagged (k : Kind) (fields : List (Text × Json)) :
    validate k (tagged k fields) = .ok (ofFields k fields).toFields := by
  rw [validate, misfits_tagged, toFields_ofFields]
  rfl

theorem ofFields_tagged (k : Kind) (fields : List (Text × Json)) :
    ofFields k (tagged k fields) = ofFields k fields := by
  cases k <;>
    simp [ofFields, Creature.ofFields, Spell.ofFields, Item.ofFields, Heading.ofFields, textField,
      scalarField, spelled?, get?_tagged]

theorem ofRecord_tagged (k : Kind) (fields : List (Text × Json)) :
    ofRecord k (.obj (tagged k fields)) = .ok (ofFields k fields) := by
  have hclaims : claimsKind k (tagged k fields) = true := by
    simp [claimsKind, get?_tagged]
  simp only [ofRecord, hclaims, if_true, ofFields_tagged]

end Entry

end Compendium
