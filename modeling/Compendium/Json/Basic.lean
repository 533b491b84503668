import Compendium.Decimal.Double
import Compendium.Fields
import Compendium.Text.CodePoint

/-!
# JSON values

Whole numbers are exact and of any size, other numbers are doubles. An object is a list of fields
in their order. Texts and the names of fields may hold halves of pairs that stand alone.
-/

namespace Compendium

inductive Json where
  | null
  | bool (b : Bool)
  | int (n : Int)
  | float (x : Double)
  | str (s : Text)
  | arr (items : List Json)
  | obj (fields : List (Text × Json))
deriving Inhabited

namespace Json

def ofText? : Option String → Json
  | some s => .str s
  | none => .null

def ofTexts (texts : List String) : Json := .arr (texts.map fun s => .str (.chars s))

/-- What is asked of the numbers and of the texts in a value. -/
structure Demand where
  number : Double → Bool
  text : Text → Bool

mutual

/-- Every number and every text in the value, the names of fields too, is as asked. -/
def meets (d : Demand) : Json → Bool
  | .float x => d.number x
  | .str s => d.text s
  | .arr items => itemsMeet d items
  | .obj fields => fieldsMeet d fields
  | _ => true

def itemsMeet (d : Demand) : List Json → Bool
  | [] => true
  | v :: rest => v.meets d && itemsMeet d rest

def fieldsMeet (d : Demand) : List (Text × Json) → Bool
  | [] => true
  | f :: rest => d.text f.1 && f.2.meets d && fieldsMeet d rest

end

def isFinite (v : Json) : Bool := v.meets ⟨Double.isFinite, fun _ => true⟩

end Json

end Compendium
