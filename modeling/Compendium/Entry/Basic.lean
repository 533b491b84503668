import Compendium.Json.Display

/-!
# Entries

The three kinds of entry in a compendium: creatures, spells and items. An entry is found by its
key, the label of its kind and its name with a colon between. Main statement: a key names one kind
and one name (`key_eq_iff`), whatever colons a name holds.
-/

namespace Compendium

/-- A number or a text. -/
inductive Scalar where
  | int (n : Int)
  | float (x : Double)
  | text (s : String)
deriving DecidableEq, Repr

def Scalar.toJson : Scalar → Json
  | .int n => .int n
  | .float x => .float x
  | .text s => .str s

/-- A scalar as a label: a whole double shows as a whole number. -/
def Scalar.label (s : Scalar) : String := (s.toJson.label?).getD ""

/-- The scalar is a number of at least zero. -/
def Scalar.nonnegative : Scalar → Bool
  | .int n => 0 ≤ n
  | .float x => x.nonnegative
  | .text _ => false

inductive Kind where
  | creature
  | spell
  | item
deriving DecidableEq, Repr

def Kind.all : List Kind := [.creature, .spell, .item]

def Kind.label : Kind → String
  | .creature => "bestiary"
  | .spell => "spell"
  | .item => "item"

def Kind.ofLabel? (s : String) : Option Kind := Kind.all.find? fun k => k.label = s

/-- Something a creature can do. -/
structure Action where
  name : String
  description : String
deriving DecidableEq, Repr

/-- What every entry has. -/
structure Heading where
  name : String
  description : Option String
  source : Option String
deriving DecidableEq, Repr

/-- A creature; `stats` keeps its abilities in their order. -/
structure Creature extends Heading where
  level : Option Scalar
  alignment : Option String
  ac : Option Scalar
  armorType : Option Scalar
  hp : Option Scalar
  attack : Option Scalar
  movement : Option Scalar
  stats : Option (List (String × Scalar))
  actions : List Action
deriving DecidableEq, Repr

structure Spell extends Heading where
  tier : Option Scalar
  dc : Option Scalar
  duration : Option Scalar
  range : Option Scalar
  classes : Option (List String)
deriving DecidableEq, Repr

structure Item extends Heading where
  itemType : Option String
  bonus : Option String
  benefit : Option String
  personality : Option String
  curse : Option String
deriving DecidableEq, Repr

inductive Entry where
  | creature (c : Creature)
  | spell (s : Spell)
  | item (i : Item)
deriving DecidableEq, Repr

namespace Entry

def kind : Entry → Kind
  | .creature _ => .creature
  | .spell _ => .spell
  | .item _ => .item

def heading : Entry → Heading
  | .creature c => c.toHeading
  | .spell s => s.toHeading
  | .item i => i.toHeading

def name (e : Entry) : String := e.heading.name

def description (e : Entry) : Option String := e.heading.description

/-- Where an entry is taken from. -/
def source (e : Entry) : Option String := e.heading.source

def keyOf (k : Kind) (name : String) : String := k.label ++ ":" ++ name

def key (e : Entry) : String := keyOf e.kind e.name

/-! ## Keys -/

theorem keyOf_inj {k l : Kind} {a b : String} (h : keyOf k a = keyOf l b) : k = l ∧ a = b := by
  have h' := congrArg String.toList h
  cases k <;> cases l <;> simp [keyOf, Kind.label, String.toList_append] at h' ⊢ <;>
    exact String.toList_inj.1 h'

/-- A key names one kind and one name. -/
theorem key_eq_iff (e f : Entry) : e.key = f.key ↔ e.kind = f.kind ∧ e.name = f.name :=
  ⟨keyOf_inj, fun ⟨hk, hn⟩ => by rw [key, key, hk, hn]⟩

end Entry

end Compendium
