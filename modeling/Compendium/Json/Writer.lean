import Compendium.Json.Basic
import Compendium.Decimal.Shortest
import Compendium.Text.Quoted

/-!
# Writing JSON

Two forms of one value: compact, without blanks and with code points as they are, for replies; and
indented, with all but ASCII as escapes, for files. Both keep the order of fields.
-/

namespace Compendium.Json

def intChars (n : Int) : List Char :=
  if n < 0 then '-' :: Nat.toDigits 10 n.natAbs else Nat.toDigits 10 n.natAbs

/-- A double, with names for the numbers that are not finite. -/
def floatChars (x : Double) : List Char := (x.textWith "NaN" "Infinity").toList

/-- A four-digit escape. -/
def unicodeEscape (n : Nat) : List Char := '\\' :: 'u' :: Text.hexPadded 4 n

/-- The escapes of the characters that have a letter of their own. -/
def letterEscape? : Char → Option Char
  | '"' => some '"'
  | '\\' => some '\\'
  | '\n' => some 'n'
  | '\r' => some 'r'
  | '\t' => some 't'
  | '\x08' => some 'b'
  | '\x0c' => some 'f'
  | _ => none

/-- A character of a text in which only quotes, backslashes and control characters are escaped. -/
def plainChar (c : Char) : List Char :=
  match letterEscape? c with
  | some e => ['\\', e]
  | none => if c.toNat < 0x20 then unicodeEscape c.toNat else [c]

/-- A character of a text in which all but printable ASCII is escaped, as one or two units. -/
def asciiChar (c : Char) : List Char :=
  match letterEscape? c with
  | some e => ['\\', e]
  | none =>
    let n := c.toNat
    if 0x20 ≤ n ∧ n < 0x7F then [c]
    else if n < 0x10000 then unicodeEscape n
    else
      unicodeEscape (0xD800 + (n - 0x10000) / 0x400) ++
        unicodeEscape (0xDC00 + (n - 0x10000) % 0x400)

/-! ## The compact form -/

/-- A code point of the compact form, where a half stands as it is. -/
def plainPoint : CodePoint → List CodePoint
  | .char c => (plainChar c).map .char
  | half => [half]

/-- Characters as code points. -/
def asPoints (cs : List Char) : List CodePoint := cs.map .char

def compactText (s : Text) : List CodePoint :=
  .char '"' :: s.points.flatMap plainPoint ++ [.char '"']

mutual

/-- A value without blanks. -/
def compactPoints : Json → List CodePoint
  | .null => asPoints "null".toList
  | .bool true => asPoints "true".toList
  | .bool false => asPoints "false".toList
  | .int n => asPoints (intChars n)
  | .float x => asPoints (floatChars x)
  | .str s => compactText s
  | .arr items => .char '[' :: compactItems items
  | .obj fields => .char '\x7b' :: compactFields fields

def compactItems : List Json → List CodePoint
  | [] => [.char ']']
  | v :: rest => v.compactPoints ++ (if rest.isEmpty then [] else [.char ',']) ++ compactItems rest

def compactFields : List (Text × Json) → List CodePoint
  | [] => [.char '\x7d']
  | f :: rest =>
    compactText f.1 ++ .char ':' :: f.2.compactPoints ++
      (if rest.isEmpty then [] else [.char ',']) ++ compactFields rest

end

/-- A value without blanks, as a reader sees it. -/
def compact (v : Json) : String := String.ofList (v.compactPoints.map CodePoint.shown)

/-! ## The indented form -/

/-- A code point of the indented form, where a half is an escape. -/
def asciiPoint : CodePoint → List Char
  | .char c => asciiChar c
  | half => unicodeEscape half.toNat

def indentedText (s : Text) : List Char := '"' :: s.points.flatMap asciiPoint ++ ['"']

/-- A line feed, and two blanks for each level of nesting. -/
def newLine (depth : Nat) : List Char := '\n' :: List.replicate (2 * depth) ' '

mutual

/-- A value at the given depth, an item or a field to a line. -/
def indentedChars (depth : Nat) : Json → List Char
  | .null => "null".toList
  | .bool true => "true".toList
  | .bool false => "false".toList
  | .int n => intChars n
  | .float x => floatChars x
  | .str s => indentedText s
  | .arr [] => ['[', ']']
  | .arr items => '[' :: indentedItems depth items
  | .obj [] => ['\x7b', '\x7d']
  | .obj fields => '\x7b' :: indentedFields depth fields

/-- The items of a list at the given depth, and its closing bracket. -/
def indentedItems (depth : Nat) : List Json → List Char
  | [] => newLine depth ++ [']']
  | v :: rest =>
    newLine (depth + 1) ++ v.indentedChars (depth + 1) ++
      (if rest.isEmpty then [] else [',']) ++ indentedItems depth rest

/-- The fields of an object at the given depth, and its closing brace. -/
def indentedFields (depth : Nat) : List (Text × Json) → List Char
  | [] => newLine depth ++ ['\x7d']
  | f :: rest =>
    newLine (depth + 1) ++ indentedText f.1 ++ ':' :: ' ' :: f.2.indentedChars (depth + 1) ++
      (if rest.isEmpty then [] else [',']) ++ indentedFields depth rest

end

/-- A value with an item or a field to a line. -/
def indented (v : Json) : List Char := v.indentedChars 0

end Compendium.Json
