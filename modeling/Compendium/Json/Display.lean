import Compendium.Json.Writer

/-!
# Values as shown to a reader

A text shows as itself, a whole double without its fraction where a label asks for it, and lists
and objects in brackets with their texts quoted.
-/

namespace Compendium.Json

/-- A truth value in a list of values. -/
def boolWord (b : Bool) : String := if b then "True" else "False"

mutual

def inner : Json → String
  | .null => "None"
  | .bool b => boolWord b
  | .int n => String.ofList (intChars n)
  | .float x => x.text
  | .str s => Text.quotedText s
  | .arr items => "[" ++ innerItems items
  | .obj fields => "\x7b" ++ innerFields fields

def innerItems : List Json → String
  | [] => "]"
  | v :: rest => v.inner ++ (if rest.isEmpty then "" else ", ") ++ innerItems rest

def innerFields : List (Text × Json) → String
  | [] => "\x7d"
  | f :: rest =>
    Text.quotedText f.1 ++ ": " ++ f.2.inner ++ (if rest.isEmpty then "" else ", ") ++ innerFields rest

end

/-- A value by itself: a text shows without quotes. -/
def display : Json → String
  | .str s => s.shown
  | v => v.inner

/-- A value as a label: a whole double shows as a whole number, and null has no label. -/
def label? : Json → Option String
  | .null => none
  | .float x => some (if x.isWhole then String.ofList (intChars x.whole) else x.text)
  | v => some v.display

/-- The value counts as present where a template asks: null, false, zero and what is empty do
not. -/
def truthy : Json → Bool
  | .null => false
  | .bool b => b
  | .int n => n ≠ 0
  | .float x => !x.isZero
  | .str s => !s.isEmpty
  | .arr items => !items.isEmpty
  | .obj fields => !fields.isEmpty

/-- The word for a value's type in a message. -/
def typeWord : Json → String
  | .null => "NoneType"
  | .bool _ => "bool"
  | .int _ => "int"
  | .float _ => "float"
  | .str _ => "str"
  | .arr _ => "list"
  | .obj _ => "dict"

end Compendium.Json
