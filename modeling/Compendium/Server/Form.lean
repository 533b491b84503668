import Compendium.Search
import Compendium.Text.Utf8

/-!
# The settings form

What a reader may send to change settings. Every field may be absent or null. A flag may come as a
number or a word and a whole number as a text or a double without fraction; what cannot be taken
for the value it should be is complained about, all of it at once. Main statement: a form is taken
or complained about, never both (`read_eq_ok_iff`).
-/

namespace Compendium

inductive FieldFault where
  | missing
  | category
  | flag
  | unclearFlag
  | whole
  | fraction
  | infiniteWhole
  | unclearWhole
  | longWhole
  | text
  | halves
  | fields
  | groups
deriving DecidableEq, Repr

namespace FieldFault

def code : FieldFault → String
  | .missing => "missing"
  | .category => "literal_error"
  | .flag => "bool_type"
  | .unclearFlag => "bool_parsing"
  | .whole => "int_type"
  | .fraction => "int_from_float"
  | .infiniteWhole => "finite_number"
  | .unclearWhole => "int_parsing"
  | .longWhole => "int_parsing_size"
  | .text => "string_type"
  | .halves => "string_unicode"
  | .fields => "model_attributes_type"
  | .groups => "dict_type"

def expectedLabels : String := "'all', 'bestiary', 'spell', 'item' or 'bookmarks'"

def message : FieldFault → String
  | .missing => "Field required"
  | .category => "Input should be " ++ expectedLabels
  | .flag => "Input should be a valid boolean"
  | .unclearFlag => "Input should be a valid boolean, unable to interpret input"
  | .whole => "Input should be a valid integer"
  | .fraction => "Input should be a valid integer, got a number with a fractional part"
  | .infiniteWhole => "Input should be a finite number"
  | .unclearWhole => "Input should be a valid integer, unable to parse string as an integer"
  | .longWhole => "Unable to parse input string as an integer, exceeded maximum size"
  | .text => "Input should be a valid string"
  | .halves => "Input should be a valid string, unable to parse raw data as a unicode string"
  | .fields => "Input should be a valid dictionary or object to extract fields from"
  | .groups => "Input should be a valid dictionary"

end FieldFault

structure Complaint where
  place : List String
  fault : FieldFault
  input : Json

def Complaint.toJson (c : Complaint) : Json :=
  let context : List (Text × Json) :=
    if c.fault = .category then
      [("ctx", .obj [("expected", .str FieldFault.expectedLabels)])]
    else []
  .obj (("type", .str c.fault.code) :: ("loc", .ofTexts c.place) ::
    ("msg", .str c.fault.message) :: ("input", c.input) :: context)

namespace Form

/-! ## Single values -/

def readCategory : Json → Except FieldFault Json
  | .str (.chars s) => if (Category.ofLabel? s).isSome then .ok (.str s) else .error .category
  | .str (.ragged _) => .error .halves
  | _ => .error .category

def trueWords : List String := ["1", "on", "t", "true", "y", "yes"]

def falseWords : List String := ["0", "off", "f", "false", "n", "no"]

/-- The text with its ASCII letters lowered. -/
def lowerAscii (s : String) : String := String.ofList (s.toList.map Char.toLower)

def readFlag : Json → Except FieldFault Json
  | .bool b => .ok (.bool b)
  | .int n =>
    if n = 1 then .ok (.bool true) else if n = 0 then .ok (.bool false) else .error .unclearFlag
  | .float x =>
    if x = .finite false Double.one then .ok (.bool true)
    else if x.isZero then .ok (.bool false)
    else .error .flag
  | .str (.chars s) =>
    if lowerAscii s ∈ trueWords then .ok (.bool true)
    else if lowerAscii s ∈ falseWords then .ok (.bool false)
    else .error .unclearFlag
  | .str (.ragged _) => .error .halves
  | _ => .error .flag

def trimWhite (cs : List Char) : List Char :=
  ((cs.dropWhile Text.isWhite).reverse.dropWhile Text.isWhite).reverse

/-- The digits before a point that only zeros follow, at least one; the whole text if it has no
point. -/
def withoutZeroFraction (cs : List Char) : List Char :=
  match cs.dropWhile (· ≠ '.') with
  | '.' :: z :: zeros => if (z :: zeros).all (· = '0') then cs.takeWhile (· ≠ '.') else cs
  | _ => cs

/-- The whole number that digits are; an underscore may stand between two of them. -/
def digitsValue? (cs : List Char) : Option Nat :=
  let groups := cs.splitOn '_'
  if groups.all fun g => !g.isEmpty && g.all Char.isDigit then
    some (Nat.ofDigitChars 10 groups.flatten 0)
  else none

def wholeOfText? (cs : List Char) : Option Int :=
  match withoutZeroFraction cs with
  | '-' :: digits => (digitsValue? digits).map fun n => -(n : Int)
  | '+' :: digits => (digitsValue? digits).map fun n => (n : Int)
  | digits => (digitsValue? digits).map fun n => (n : Int)

/-- The most octets that a text may have that is read as a whole number. -/
def longestWhole : Nat := 4300

/-- The numbers beyond which a double is not taken for a whole number. -/
def wholeBound : Int := Nat.pow 2 63

def readWhole : Json → Except FieldFault Json
  | .bool b => .ok (.int (if b then 1 else 0))
  | .int n => .ok (.int n)
  | .float x =>
    if !x.isFinite then .error .infiniteWhole
    else if !x.isWhole then .error .fraction
    else if -wholeBound < x.whole ∧ x.whole < wholeBound then .ok (.int x.whole)
    else .error .longWhole
  | .str (.chars s) =>
    let cs := trimWhite s.toList
    if longestWhole < (Text.Utf8.encode cs).length then .error .longWhole
    else
      match wholeOfText? cs with
      | some n => .ok (.int n)
      | none => .error .unclearWhole
  | .str (.ragged _) => .error .halves
  | _ => .error .whole

/-- A text, which may hold halves. -/
def readText : Json → Except FieldFault Json
  | .str s => .ok (.str s)
  | _ => .error .text

/-! ## Fields -/

/-- What has been read so far, and the complaints so far. -/
structure Reading where
  fields : List (Text × Json)
  complaints : List Complaint

def Reading.append (a b : Reading) : Reading :=
  ⟨a.fields ++ b.fields, a.complaints ++ b.complaints⟩

def readField (place : List String) (fields : List (Text × Json))
    (field : String × (Json → Except FieldFault Json)) : Reading :=
  match Fields.get? fields field.1 with
  | none => ⟨[], []⟩
  | some .null => ⟨[], []⟩
  | some v =>
    match field.2 v with
    | .ok w => ⟨[(field.1, w)], []⟩
    | .error f => ⟨[], [⟨place ++ [field.1], f, v⟩]⟩

def readFields (place : List String) (fields : List (Text × Json))
    (wanted : List (String × (Json → Except FieldFault Json))) : Reading :=
  (wanted.map (readField place fields)).foldl Reading.append ⟨[], []⟩

/-- A name in a place. A half in it counts as three replacement characters, one for each octet that it
would take. -/
def placeName (name : Text) : String :=
  String.ofList (name.points.flatMap fun
    | .char c => [c]
    | half => List.replicate 3 half.shown)

def readGroup (place : List String) (group : Text × Json) : Reading :=
  let place := place ++ [placeName group.1]
  match group.2 with
  | .obj fields =>
    let r := readFields place fields
      [("family", readText), ("size", readWhole), ("style", readText)]
    ⟨[(group.1, .obj r.fields)], r.complaints⟩
  | v => ⟨[], [⟨place, .fields, v⟩]⟩

def readGroups (place : List String) (fields : List (Text × Json)) : Reading :=
  let place := place ++ ["font_settings"]
  match Fields.get? fields "font_settings" with
  | none => ⟨[], []⟩
  | some .null => ⟨[], []⟩
  | some (.obj groups) =>
    let r := (groups.map (readGroup place)).foldl Reading.append ⟨[], []⟩
    ⟨[("font_settings", .obj r.fields)], r.complaints⟩
  | some v => ⟨[], [⟨place, .groups, v⟩]⟩

/-- Everything in a form. -/
def readAll (place : List String) (fields : List (Text × Json)) : Reading :=
  (readFields place fields
    [("default_category", readCategory), ("show_source", readFlag),
     ("app_width_percent", readWhole)]).append (readGroups place fields)

/-- The fields that a form sets, or what is wrong with it. -/
def read (v : Json) : Except (List Complaint) Json :=
  match v with
  | .obj fields =>
    let r := readAll ["body"] fields
    if r.complaints.isEmpty then .ok (.obj r.fields) else .error r.complaints
  | v => .error [⟨["body"], .fields, v⟩]

/-- A form is taken exactly if it is an object without complaints. -/
theorem read_eq_ok_iff {v w : Json} :
    read v = .ok w ↔ ∃ fields, v = .obj fields ∧
      (readAll ["body"] fields).complaints = [] ∧ w = .obj (readAll ["body"] fields).fields := by
  cases v with
  | obj fields =>
    simp only [read]
    have hinj : ∀ gs, Json.obj fields = Json.obj gs ↔ gs = fields := fun gs =>
      ⟨fun h => by injection h with h; exact h.symm, fun h => by rw [h]⟩
    simp only [hinj, exists_eq_left]
    generalize readAll ["body"] fields = r
    cases hc : r.complaints with
    | nil => simp [eq_comm]
    | cons c rest => simp
  | _ => simp [read]

end Form

end Compendium
