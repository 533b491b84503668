import Compendium.Json.Basic
import Compendium.Text.Hex
import Compendium.Text.Lines

/-!
# Reading JSON

A reader goes over a text with the number of characters it has passed, and stops at the first
fault. The numbers `NaN`, `Infinity` and `-Infinity` are read, a number with a fraction or an
exponent is a double, any other is a whole number of at most 4300 digits, and a repeated field
keeps its first place and takes its last value.
-/

namespace Compendium.Json

inductive FaultKind where
  | value
  | fieldName
  | colon
  | comma
  | extraData
  | unterminatedText
  | escape
  | unicodeEscape
  | controlCharacter
  | byteOrderMark
deriving DecidableEq, Repr

/-- Why a text is no JSON value: something stands out of place after `offset` characters, or a
whole number has too many digits. -/
inductive Fault where
  | misplaced (kind : FaultKind) (offset : Nat)
  | tooManyDigits (count : Nat)
deriving DecidableEq, Repr

def FaultKind.message : FaultKind → String
  | .value => "Expecting value"
  | .fieldName => "Expecting property name enclosed in double quotes"
  | .colon => "Expecting ':' delimiter"
  | .comma => "Expecting ',' delimiter"
  | .extraData => "Extra data"
  | .unterminatedText => "Unterminated string starting at"
  | .escape => "Invalid \\escape"
  | .unicodeEscape => "Invalid \\uXXXX escape"
  | .controlCharacter => "Invalid control character at"
  | .byteOrderMark => "Unexpected UTF-8 BOM (decode using utf-8-sig)"

def digitLimit : Nat := 4300

/-- What is wrong with a text, with the line, the column and the number of characters before it. -/
def Fault.message (text : List Char) : Fault → String
  | .misplaced kind offset =>
    let place := Text.lineColumn (text.take offset)
    s!"{kind.message}: line {place.1} column {place.2} (char {offset})"
  | .tooManyDigits count =>
    s!"Exceeds the limit ({digitLimit} digits) for integer string conversion: " ++
      s!"value has {count} digits; use sys.set_int_max_str_digits() to increase the limit"

/-- The rest of a text and the number of characters before it. -/
structure Cursor where
  offset : Nat
  rest : List Char

/-- The blanks between the parts of a value. -/
def isSpace (c : Char) : Bool := c = ' ' || c = '\t' || c = '\n' || c = '\r'

/-- The first place at or after `offset` that is not blank. -/
def skipSpace : Nat → List Char → Cursor
  | offset, [] => ⟨offset, []⟩
  | offset, c :: rest => if isSpace c then skipSpace (offset + 1) rest else ⟨offset, c :: rest⟩

/-- The cursor moved over blanks. -/
def Cursor.space (c : Cursor) : Cursor := skipSpace c.offset c.rest

/-! ## Texts -/

/-- Where the reading of a text stands: between characters, after a backslash, or inside a
four-digit escape that began with a `u` at offset `start`. -/
inductive TextMode where
  | plain
  | backslash
  | hex (start count value : Nat)

/-- What one character of a text leads to. -/
inductive TextStep where
  | next (out : List CodePoint) (mode : TextMode)
  | done (out : List CodePoint)
  | fail (f : Fault)

/-- The character that a one-letter escape stands for. -/
def escaped? : Char → Option Char
  | '"' => some '"'
  | '\\' => some '\\'
  | '/' => some '/'
  | 'b' => some '\x08'
  | 'f' => some '\x0c'
  | 'n' => some '\n'
  | 'r' => some '\r'
  | 't' => some '\t'
  | _ => none

/-- A character that no backslash stands before, behind code points that are complete. -/
def plainStep (offset : Nat) (out : List CodePoint) (c : Char) : TextStep :=
  if c = '"' then .done out
  else if c = '\\' then .next out .backslash
  else if c.toNat < 0x20 then .fail (.misplaced .controlCharacter offset)
  else .next (out ++ [.char c]) .plain

/-- One character of a text. -/
def textStep (offset : Nat) (mode : TextMode) (c : Char) : TextStep :=
  match mode with
  | .plain => plainStep offset [] c
  | .backslash =>
    if c = 'u' then .next [] (.hex offset 0 0)
    else
      match escaped? c with
      | some d => .next [.char d] .plain
      | none => .fail (.misplaced .escape (offset - 1))
  | .hex start count value =>
    if count = 4 then plainStep offset [.ofNat value] c
    else
      match Text.hexValue? c with
      | some d => .next [] (.hex start (count + 1) (value * 16 + d))
      | none => .fail (.misplaced .unicodeEscape start)

/-- The fault of a text that ends in the given mode; `opening` is the offset of its quote. -/
def textEnd (opening : Nat) : TextMode → Fault
  | .hex start _ _ => .misplaced .unicodeEscape start
  | _ => .misplaced .unterminatedText opening

/-- The code points of the rest of a text, up to its closing quote. -/
def readText (opening : Nat) : TextMode → Nat → List Char → Except Fault (List CodePoint × Cursor)
  | mode, _, [] => .error (textEnd opening mode)
  | mode, offset, c :: rest =>
    match textStep offset mode c with
    | .done out => .ok (out, ⟨offset + 1, rest⟩)
    | .fail f => .error f
    | .next out mode' => do
      let (ps, after) ← readText opening mode' (offset + 1) rest
      return (out ++ ps, after)

def readString (offset : Nat) (rest : List Char) : Except Fault (Text × Cursor) := do
  let (ps, after) ← readText offset .plain (offset + 1) rest
  return (Text.ofPoints ps, after)

/-! ## Numbers -/

/-- Digits that a part of a number consists of, the length of the part with its signs, and the text
that follows. -/
structure Digits where
  digits : List Char
  size : Nat
  rest : List Char

/-- The digits at the front of a text, after `lead` characters of the same part; none if there are
no digits. -/
def leadingDigits? (lead : Nat) (cs : List Char) : Option Digits :=
  let digits := cs.takeWhile Char.isDigit
  if digits.isEmpty then none
  else some ⟨digits, lead + digits.length, cs.dropWhile Char.isDigit⟩

/-- The whole part of a number: a zero, or digits that begin with none. -/
def wholePart? : List Char → Option Digits
  | '0' :: rest => some ⟨['0'], 1, rest⟩
  | cs => leadingDigits? 0 cs

def fractionPart? : List Char → Option Digits
  | '.' :: rest => leadingDigits? 1 rest
  | _ => none

/-- The exponent part of a number, and whether it is negative. -/
def exponentPart? : List Char → Option (Bool × Digits)
  | e :: rest =>
    if e = 'e' ∨ e = 'E' then
      match rest with
      | '-' :: rest => (leadingDigits? 2 rest).map (true, ·)
      | '+' :: rest => (leadingDigits? 2 rest).map (false, ·)
      | rest => (leadingDigits? 1 rest).map (false, ·)
    else none
  | [] => none

def digitsValue (digits : List Char) : Nat := Nat.ofDigitChars 10 digits 0

/-- A whole number of these digits, if they are not too many. -/
def wholeNumber (negative : Bool) (digits : List Char) : Except Fault Json :=
  if digits.length ≤ digitLimit then
    let n := digitsValue digits
    .ok (.int (if negative then -(n : Int) else n))
  else .error (.tooManyDigits digits.length)

/-- A number after its sign, which took `signSize` characters, and where it ends. -/
def readMagnitude (negative : Bool) (signSize offset : Nat) (cs : List Char) :
    Except Fault (Json × Cursor) := do
  match wholePart? cs with
  | none => .error (.misplaced .value offset)
  | some w =>
    let fraction := (fractionPart? w.rest).getD ⟨[], 0, w.rest⟩
    let (below, power) := (exponentPart? fraction.rest).getD (false, ⟨[], 0, fraction.rest⟩)
    let last : Cursor := ⟨offset + signSize + w.size + fraction.size + power.size, power.rest⟩
    if fraction.size = 0 ∧ power.size = 0 then
      let v ← wholeNumber negative w.digits
      return (v, last)
    else
      let n := digitsValue power.digits
      let exponent : Int := if below then -(n : Int) else n
      let x := Double.ofDecimal negative (digitsValue (w.digits ++ fraction.digits))
        (exponent - fraction.digits.length)
      return (.float x, last)

def readNumber (offset : Nat) (cs : List Char) : Except Fault (Json × Cursor) :=
  match cs with
  | '-' :: rest => readMagnitude true 1 offset rest
  | _ => readMagnitude false 0 offset cs

/-- The values that are written as words. -/
def words : List (List Char × Json) :=
  [("null".toList, .null), ("true".toList, .bool true), ("false".toList, .bool false),
   ("NaN".toList, .float .nan), ("Infinity".toList, .float (.infinite false)),
   ("-Infinity".toList, .float (.infinite true))]

def word? (cs : List Char) : Option (List Char × Json) :=
  words.find? fun w => w.1.isPrefixOf cs

def readScalar (offset : Nat) (cs : List Char) : Except Fault (Json × Cursor) :=
  match word? cs with
  | some (w, v) => .ok (v, ⟨offset + w.length, cs.drop w.length⟩)
  | none => readNumber offset cs

/-! ## Values -/

/-- The name of a field and the place of its value; blanks have been passed. -/
def readName (c : Cursor) : Except Fault (Text × Cursor) :=
  match c.rest with
  | '"' :: rest => do
    let (name, after) ← readString c.offset rest
    let after := after.space
    match after.rest with
    | ':' :: rest => return (name, Cursor.space ⟨after.offset + 1, rest⟩)
    | _ => .error (.misplaced .colon after.offset)
  | _ => .error (.misplaced .fieldName c.offset)

mutual

/-- The value at a place that is not blank. Each value takes a unit of fuel from those inside. -/
def readValue : Nat → Cursor → Except Fault (Json × Cursor)
  | 0, c => .error (.misplaced .value c.offset)
  | fuel + 1, c =>
    match c.rest with
    | '"' :: rest => do
      let (s, after) ← readString c.offset rest
      return (.str s, after)
    | '[' :: rest =>
      let c := Cursor.space ⟨c.offset + 1, rest⟩
      match c.rest with
      | ']' :: rest => .ok (.arr [], ⟨c.offset + 1, rest⟩)
      | _ => do
        let (items, after) ← readItems fuel c
        return (.arr items, after)
    | '\x7b' :: rest =>
      let c := Cursor.space ⟨c.offset + 1, rest⟩
      match c.rest with
      | '\x7d' :: rest => .ok (.obj [], ⟨c.offset + 1, rest⟩)
      | _ => do
        let (fields, after) ← readFields fuel c
        return (.obj (Fields.ofAssignments fields), after)
    | cs => readScalar c.offset cs

def readItems : Nat → Cursor → Except Fault (List Json × Cursor)
  | 0, c => .error (.misplaced .value c.offset)
  | fuel + 1, c => do
    let (v, after) ← readValue fuel c
    let after := after.space
    match after.rest with
    | ']' :: rest => return ([v], ⟨after.offset + 1, rest⟩)
    | ',' :: rest =>
      let (items, last) ← readItems fuel (Cursor.space ⟨after.offset + 1, rest⟩)
      return (v :: items, last)
    | _ => .error (.misplaced .comma after.offset)

def readFields : Nat → Cursor → Except Fault (List (Text × Json) × Cursor)
  | 0, c => .error (.misplaced .value c.offset)
  | fuel + 1, c => do
    let (name, c) ← readName c
    let (v, after) ← readValue fuel c
    let after := after.space
    match after.rest with
    | '\x7d' :: rest => return ([(name, v)], ⟨after.offset + 1, rest⟩)
    | ',' :: rest =>
      let (fields, last) ← readFields fuel (Cursor.space ⟨after.offset + 1, rest⟩)
      return ((name, v) :: fields, last)
    | _ => .error (.misplaced .comma after.offset)

end

/-- The value that a text is, with blanks around it, whatever the text begins with. Every value, item
and field passes at least one character, so twice the length is fuel enough. -/
def readAll (text : List Char) : Except Fault Json := do
  let (v, after) ← readValue (2 * text.length + 1) (skipSpace 0 text)
  match after.space.rest with
  | [] => return v
  | _ => .error (.misplaced .extraData after.space.offset)

/-- The value that a text is. A mark of its encoding may not stand in front. -/
def read (text : List Char) : Except Fault Json :=
  if text.head? = some '\uFEFF' then .error (.misplaced .byteOrderMark 0) else readAll text

end Compendium.Json
