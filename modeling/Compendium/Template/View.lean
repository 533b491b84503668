import Compendium.Template.Basic
import Compendium.Template.Own

/-!
# Views

What a path in a template leads to: a value by itself, or a value that a block has opened, together
with what lies around it. A step that leads nowhere leads to null, and from null every step leads
to null (`resolve_null`).
-/

namespace Compendium.Template

/-- Where a repeated block stands. -/
structure Loop where
  index : Nat
  key : Option String
  isFirst : Bool
  isLast : Bool

/-- What a path leads to: a value, a value that a block has opened, an operation that a value has of
its own, or what a block hands to its helper. -/
inductive View where
  | plain (v : Json)
  | scope (here : Json) (outer : View) (loop : Option Loop)
  | operation (owner : Json) (name : String)
  | handed (root : Json)

def View.null : View := .plain .null

/-- The view as the surroundings of a block. -/
def View.opened : View → View
  | .plain v => .scope v (.plain v) none
  | v => v

/-- The value is a text, a list or an object, and so has a size. -/
def isSized : Json → Bool
  | .str _ | .arr _ | .obj _ => true
  | _ => false

/-- The view counts as present. What a block has opened goes by its size, and must have one. -/
def View.truthy : View → Except TemplateFault Bool
  | .plain v => .ok v.truthy
  | .scope here _ _ => if isSized here then .ok here.truthy else .error .misuse
  | _ => .ok true

/-- The view has a size, and it is not nought. -/
def View.isFilled : View → Bool
  | .plain v | .scope v _ _ => isSized v && v.truthy
  | _ => false

/-- The characters of a text as values. -/
def letters (s : String) : List Json := s.toList.map fun c => .str (String.ofList [c])

/-- The names under which a block hands its helper what it has. -/
def handedNames : List String := ["fn", "helpers", "partials", "root", "inverse"]

/-- The items that a view is made of. An object that a block has opened is not made of items. -/
def View.items : View → Except TemplateFault (List Json)
  | .plain (.arr items) | .scope (.arr items) _ _ => .ok items
  | .plain (.str s) | .scope (.str s) _ _ => .ok (letters s.shown)
  | .plain (.obj fields) => .ok (fields.map fun f => .str f.1)
  | .handed _ => .ok (handedNames.map fun name => .str (.chars name))
  | _ => .error .misuse

/-- What a value has of its own under a name. -/
def ownView (v : Json) (name : String) : View :=
  match ownPart? v name with
  | some w => .plain w
  | none => if name ∈ ownOperations v then .operation v name else .null

/-- The part of a value under a name. -/
def pick (v : Json) (name : String) : View :=
  match v with
  | .obj fields =>
    match Fields.get? fields name with
    | some w => .plain w
    | none => ownView v name
  | v => ownView v name

def loopVariable? (loop : Loop) : String → Option Json
  | "@index" => some (.int loop.index)
  | "@key" => loop.key.map fun key => .str (.chars key)
  | "@first" => some (.bool loop.isFirst)
  | "@last" => some (.bool loop.isLast)
  | _ => none

/-- One step from an opened value. -/
def stepFrom (root here : Json) (outer : View) (loop : Option Loop) (name : String) : View :=
  if name = "@root" then .plain root
  else if name = "@_parent" then outer
  else
    match loop.bind (loopVariable? · name) with
    | some v => .plain v
    | none => if name = "this" then .plain here else pick here name

/-- The characters of a number with the blanks around it left out. The control characters that
separate records are blanks only beside characters beyond ASCII. -/
def trimNumber (cs : List Char) : List Char :=
  let trimmed := Text.trimChars cs
  let isSeparator (c : Char) : Bool := '\x1c' ≤ c && c ≤ '\x1f'
  if cs.all (fun c => c.toNat < 128) && cs.any isSeparator then cs else trimmed

/-- The whole number that a step on a list is, with an underscore allowed between digits. -/
def indexOf? (name : String) : Option Int :=
  let cs := trimNumber name.toList
  let (negative, digits) : Bool × List Char :=
    match cs with
    | '-' :: rest => (true, rest)
    | '+' :: rest => (false, rest)
    | rest => (false, rest)
  let groups := digits.splitOn '_'
  if groups.all fun g => !g.isEmpty then
    (Text.decimalNumber? groups.flatten).map fun n => if negative then -(n : Int) else n
  else none

/-- The item of a list at an index, which counts from the end if it is negative. -/
def itemAt? (items : List Json) (index : Int) : Option Json :=
  let place := if index < 0 then index + items.length else index
  if 0 ≤ place then items[place.toNat]? else none

def resolve (root : Json) : View → List String → Except TemplateFault View
  | v, [] => .ok v
  | .plain .null, _ :: _ => .ok .null
  | v, "" :: rest => resolve root v rest
  | .plain (.arr items), name :: rest =>
    if name = "length" then .ok (.plain (.int items.length))
    else
      match (indexOf? name).bind (itemAt? items) with
      | some w => resolve root (.plain w) rest
      | none => .error .absent
  | .plain v, name :: rest => resolve root (pick v name) rest
  | .scope here outer loop, name :: rest => resolve root (stepFrom root here outer loop name) rest
  | _, _ :: _ => .ok .null

/-- The step carries its mark on to the step after it. -/
def carriesMark (s : String) : Bool := s.toList.take 2 = ['@', '@']

/-- The steps of a path, each carried mark moved on. -/
def moveMarks : Bool → List String → List String
  | _, [] => []
  | mark, s :: rest =>
    let s := if mark then "@" ++ s else s
    if carriesMark s then String.ofList (s.toList.drop 1) :: moveMarks true rest
    else s :: moveMarks false rest

/-- What a path leads to; the path that stays where it is leads to the opened value itself. -/
def follow (root : Json) (view : View) (segments : List String) : Except TemplateFault View :=
  match view, segments with
  | .scope here _ _, [""] => .ok (.plain here)
  | view, segments => resolve root view (moveMarks false segments)

/-- From null every step leads to null. -/
theorem resolve_null (root : Json) (segments : List String) :
    resolve root .null segments = .ok .null := by
  cases segments <;> simp [resolve, View.null]

end Compendium.Template
