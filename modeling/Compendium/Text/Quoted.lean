import Compendium.Text.Class
import Compendium.Text.CodePoint

/-!
# Quoted texts

A text between quotes, as messages and lists show it. The single quote is taken unless the text
holds one and no double quote; what cannot be printed is written as an escape.
-/

namespace Compendium.Text

/-- The last `width` hexadecimal digits of a number, with zeros in front. -/
def hexPadded (width n : Nat) : List Char :=
  let digits := Nat.toDigits 16 n
  List.replicate (width - digits.length) '0' ++ digits

/-- A character inside the given quotes. -/
def quoteChar (quote c : Char) : List Char :=
  if c = quote ∨ c = '\\' then ['\\', c]
  else if c = '\n' then ['\\', 'n']
  else if c = '\r' then ['\\', 'r']
  else if c = '\t' then ['\\', 't']
  else if isPrintable c then [c]
  else if c.toNat < 0x100 then '\\' :: 'x' :: hexPadded 2 c.toNat
  else if c.toNat < 0x10000 then '\\' :: 'u' :: hexPadded 4 c.toNat
  else '\\' :: 'U' :: hexPadded 8 c.toNat

/-- The quote that a row of characters is put between. -/
def quoteFor (cs : List Char) : Char := if '\'' ∈ cs ∧ '"' ∉ cs then '"' else '\''

def quoted (s : String) : String :=
  let quote := quoteFor s.toList
  String.ofList (quote :: s.toList.flatMap (quoteChar quote) ++ [quote])

/-- A code point inside the given quotes; a half cannot be printed. -/
def quotePoint (quote : Char) : CodePoint → List Char
  | .char c => quoteChar quote c
  | half => '\\' :: 'u' :: hexPadded 4 half.toNat

def quotedText : Text → String
  | .chars s => quoted s
  | .ragged r =>
    let quote := quoteFor (r.points.map CodePoint.shown)
    String.ofList (quote :: r.points.flatMap (quotePoint quote) ++ [quote])

end Compendium.Text
