import Compendium.Entry.Basic
import Compendium.Query
import Compendium.Text.Contains

/-!
# Filters

A filter asks something of an entry of one kind, or of every entry; an entry of another kind, or
without the field, fails it. An entry passes a set of filters if it passes each one whose key is
known. Main statement: a set of filters is passed piece by piece (`passes_append`).
-/

namespace Compendium

/-- What a filter asks about. -/
inductive Filter where
  | tier
  | level
  | castingClass
  | itemType
  | alignment
  | source
deriving DecidableEq, Repr

namespace Filter

/-- The filter of a key; the level has two keys. -/
def ofKey? : String → Option Filter
  | "tier" => some .tier
  | "level" => some .level
  | "lv" => some .level
  | "class" => some .castingClass
  | "type" => some .itemType
  | "alignment" => some .alignment
  | "source" => some .source
  | _ => none

/-- The scalar is there, and the value is its label. -/
def labelIs (scalar : Option Scalar) (value : String) : Bool := scalar.any fun s => s.label = value

/-- The entry passes the filter with that value. -/
def accepts (f : Filter) (e : Entry) (value : String) : Bool :=
  match f, e with
  | .tier, .spell s => labelIs s.tier value
  | .level, .creature c => labelIs c.level value
  | .castingClass, .spell s =>
    (s.classes.getD []).any fun c => Text.lower c = Text.lower value
  | .itemType, .item i => Text.containsFolded? i.itemType value
  | .alignment, .creature c => Text.containsFolded? c.alignment value
  | .source, e => Text.containsFolded? e.source value
  | _, _ => false

def isKnown (key : String) : Bool := (ofKey? key).isSome

/-- The entry passes a filter given by key and value; an unknown key asks nothing. -/
def passesOne (e : Entry) (f : String × String) : Bool :=
  match ofKey? f.1 with
  | some filter => filter.accepts e f.2
  | none => true

def passes (e : Entry) (filters : List (String × String)) : Bool := filters.all (passesOne e)

theorem passes_append (e : Entry) (a b : List (String × String)) :
    passes e (a ++ b) = (passes e a && passes e b) := by
  simp [passes]

theorem passes_singleton {key : String} {f : Filter} (hkey : ofKey? key = some f) (e : Entry)
    (value : String) : passes e [(key, value)] = f.accepts e value := by
  simp [passes, passesOne, hkey]

end Filter

def Query.known (q : Query) : List (String × String) := q.filters.filter fun f => Filter.isKnown f.1

end Compendium
