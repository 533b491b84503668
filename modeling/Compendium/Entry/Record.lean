import Compendium.Entry.Basic

/-!
# Records

Entries as JSON objects. Reading a record is lenient: a field of the wrong shape counts as absent,
so every object gives an entry (`ofFields`). The only record refused is one that is no object, or
that claims to be of another kind (`ofRecord_eq_error_iff`). Writing an entry lists its fields in
a fixed order. An entry consists of characters: a half that a record holds alone is taken as the
replacement character.
-/

namespace Compendium

/-- Why a value is no record of the kind asked for. -/
inductive RecordFault where
  | notObject (model : String)
  | otherKind (k : Kind)
deriving DecidableEq, Repr

namespace RecordFault

def code : RecordFault → String
  | .notObject _ => "model_type"
  | .otherKind _ => "literal_error"

/-- The field at fault, none if it is the record itself. -/
def place : RecordFault → List String
  | .notObject _ => []
  | .otherKind _ => ["kind"]

def message : RecordFault → String
  | .notObject model => "Input should be a valid dictionary or instance of " ++ model
  | .otherKind k => "Input should be '" ++ k.label ++ "'"

end RecordFault

/-! ## Lenient fields -/

namespace Json

/-- A text or a number as a text; anything else is absent. -/
def asText? : Json → Option String
  | .str s => some s.shown
  | .int n => (Json.int n).label?
  | .float x => (Json.float x).label?
  | _ => none

/-- A text or a number; anything else is absent. -/
def asScalar? : Json → Option Scalar
  | .int n => some (.int n)
  | .float x => some (.float x)
  | .str s => some (.text s.shown)
  | _ => none

def asItems? : Json → Option (List Json)
  | .arr items => some items
  | _ => none

def asFields? : Json → Option (List (Text × Json))
  | .obj fields => some fields
  | _ => none

/-- A text; a number is none. -/
def asStr? : Json → Option String
  | .str s => some s.shown
  | _ => none

def textField (fields : List (Text × Json)) (name : String) : Option String :=
  (Fields.get? fields name).bind asText?

def scalarField (fields : List (Text × Json)) (name : String) : Option Scalar :=
  (Fields.get? fields name).bind asScalar?

/-- The value of a field with two spellings, the first of which wins. -/
def spelled? (fields : List (Text × Json)) (first second : String) : Option Json :=
  (Fields.get? fields first).or (Fields.get? fields second)

end Json

open Json

def Action.ofFields (fields : List (Text × Json)) : Action where
  name := (textField fields "name").getD ""
  description := (textField fields "description").getD ""

def Heading.ofFields (fields : List (Text × Json)) : Heading where
  name := (textField fields "name").getD ""
  description := textField fields "description"
  source := textField fields "source"

/-- The abilities of a record: the fields that hold a scalar. -/
def statsOfFields (fields : List (Text × Json)) : List (String × Scalar) :=
  fields.filterMap fun f => f.2.asScalar?.map (f.1.shown, ·)

def Creature.ofFields (fields : List (Text × Json)) : Creature where
  toHeading := .ofFields fields
  level := scalarField fields "level"
  alignment := textField fields "alignment"
  ac := scalarField fields "ac"
  armorType := (spelled? fields "armorType" "armor_type").bind asScalar?
  hp := scalarField fields "hp"
  attack := scalarField fields "attack"
  movement := scalarField fields "movement"
  stats := ((Fields.get? fields "stats").bind asFields?).map statsOfFields
  actions :=
    let items := ((Fields.get? fields "actions").bind asItems?).getD []
    (items.filterMap asFields?).map Action.ofFields

def Spell.ofFields (fields : List (Text × Json)) : Spell where
  toHeading := .ofFields fields
  tier := scalarField fields "tier"
  dc := scalarField fields "dc"
  duration := scalarField fields "duration"
  range := scalarField fields "range"
  classes := ((Fields.get? fields "classes").bind asItems?).map (·.filterMap asStr?)

def Item.ofFields (fields : List (Text × Json)) : Item where
  toHeading := .ofFields fields
  itemType := (spelled? fields "itemType" "item_type").bind asText?
  bonus := textField fields "bonus"
  benefit := textField fields "benefit"
  personality := textField fields "personality"
  curse := textField fields "curse"

namespace Entry

/-- An entry of a kind read from the fields of a record, whatever kind the record names. -/
def ofFields (k : Kind) (fields : List (Text × Json)) : Entry :=
  match k with
  | .creature => .creature (.ofFields fields)
  | .spell => .spell (.ofFields fields)
  | .item => .item (.ofFields fields)

/-- The word for a record of a kind in a message. -/
def modelWord : Kind → String
  | .creature => "Bestiary"
  | .spell => "Spell"
  | .item => "Item"

/-- The record names no kind, or the one asked for. -/
def claimsKind (k : Kind) (fields : List (Text × Json)) : Bool :=
  match Fields.get? fields "kind" with
  | none => true
  | some (.str s) => s = k.label
  | some _ => false

def ofRecord (k : Kind) (record : Json) : Except RecordFault Entry :=
  match record with
  | .obj fields => if claimsKind k fields then .ok (ofFields k fields) else .error (.otherKind k)
  | _ => .error (.notObject (modelWord k))

end Entry

def Action.ofRecord : Json → Except RecordFault Action
  | .obj fields => .ok (.ofFields fields)
  | _ => .error (.notObject "Action")

/-! ## Entries as objects -/

def Scalar.orNull : Option Scalar → Json
  | some s => s.toJson
  | none => .null

def Action.toFields (a : Action) : List (Text × Json) :=
  [("name", .str a.name), ("description", .str a.description)]

/-- What every entry has as fields, its kind among them. -/
def Heading.toFields (h : Heading) (k : Kind) : List (Text × Json) :=
  [("name", .str h.name), ("description", ofText? h.description), ("source", ofText? h.source),
   ("kind", .str k.label)]

def statsToJson (stats : List (String × Scalar)) : Json :=
  .obj (stats.map fun s => (.chars s.1, s.2.toJson))

def Creature.toFields (c : Creature) : List (Text × Json) :=
  [("level", Scalar.orNull c.level), ("alignment", ofText? c.alignment),
   ("ac", Scalar.orNull c.ac), ("armorType", Scalar.orNull c.armorType),
   ("hp", Scalar.orNull c.hp), ("attack", Scalar.orNull c.attack),
   ("movement", Scalar.orNull c.movement),
   ("stats", (c.stats.map statsToJson).getD .null),
   ("actions", .arr (c.actions.map fun a => .obj a.toFields))]

def Spell.toFields (s : Spell) : List (Text × Json) :=
  [("tier", Scalar.orNull s.tier), ("dc", Scalar.orNull s.dc),
   ("duration", Scalar.orNull s.duration), ("range", Scalar.orNull s.range),
   ("classes", (s.classes.map ofTexts).getD .null)]

def Item.toFields (i : Item) : List (Text × Json) :=
  [("itemType", ofText? i.itemType), ("bonus", ofText? i.bonus), ("benefit", ofText? i.benefit),
   ("personality", ofText? i.personality), ("curse", ofText? i.curse)]

namespace Entry

/-- The fields of an entry in their order, null where one is absent. -/
def toFields (e : Entry) : List (Text × Json) :=
  e.heading.toFields e.kind ++
    match e with
    | .creature c => c.toFields
    | .spell s => s.toFields
    | .item i => i.toFields

def isPresent (field : Text × Json) : Bool :=
  match field.2 with
  | .null => false
  | _ => true

def presentFields (e : Entry) : List (Text × Json) := e.toFields.filter isPresent

/-! ## Reading -/

theorem kind_ofFields (k : Kind) (fields : List (Text × Json)) : (ofFields k fields).kind = k := by
  cases k <;> rfl

theorem ofRecord_eq_error_iff (k : Kind) (record : Json) :
    (∃ f, ofRecord k record = .error f) ↔
      ∀ fields, record = .obj fields → claimsKind k fields = false := by
  cases record <;> simp [ofRecord]
  split <;> simp_all

end Entry

end Compendium
