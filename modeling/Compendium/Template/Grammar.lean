import Compendium.Template.Basic
import Compendium.Template.Rule

/-!
# The grammar of templates

Two braces open a tag. A block opens with `#`, or with `^` if it is an inverse one, and closes with
`/` and its name; three braces or `&` fill in a value as it is, and two fill it in escaped; four
braces open and close a verbatim block. The words of a template are read as they are spelled.
-/

namespace Compendium.Template

open Rule

/-! ## Words -/

/-- A blank between the arguments of a tag. -/
def isSeparator (c : Char) : Bool := c = ' ' || c = '\t' || c = '\r' || c = '\n'

/-- Blanks, if there are any. -/
def blanks : Rule Unit := do
  let _ ← many (satisfying Text.isBlank)

def opening : Rule Unit := word "\x7b\x7b"

def closing : Rule Unit := word "\x7d\x7d"

/-- The inside and the end of a tag that separates the two branches of a block. -/
def branch : Rule Unit := do
  blanks
  firstOf [word "^", word "else"]
  blanks
  closing

def isLabelChar (c : Char) : Bool := Text.isAlphanumeric c || c = '_'

def isNameChar (c : Char) : Bool := isLabelChar c || c = '-' || c = '@'

/-- A word of a path, or the name of a block; brackets around it are left out. -/
def symbol : Rule String := do
  notAt branch
  let _ ← optional (word "[")
  let cs ← many1 (satisfying isNameChar)
  let _ ← optional (word "]")
  return String.ofList cs

def label : Rule String := do
  notAt branch
  let _ ← optional (word "[")
  let c ← satisfying fun c => Text.isLetter c || c = '_'
  let cs ← many1 (satisfying isLabelChar)
  let _ ← optional (word "]")
  return String.ofList (c :: cs)

/-! ## Paths -/

/-- A step in brackets, which may hold any character. -/
def bracketed : Rule String := do
  word "["
  let cs ← many1 (satisfying (· ≠ ']'))
  word "]"
  return String.ofList cs

/-- A fixed spelling of a step. -/
def step (spelling meaning : String) : Rule String := do
  word spelling
  return meaning

/-- A step on a path. Steps that stay where they are have no name. -/
def segment : Rule String :=
  firstOf [bracketed, step "@../" "@@_parent", symbol, step "/" "", step "../" "@_parent",
    step "." ""]

def path : Rule (List String) := do
  notAt (word "/")
  many1 segment

/-! ## Literals -/

/-- A character of a text in the given quotes. A quote of either kind may stand after a backslash,
which then is left out. -/
def quotedChar (quote : Char) : Rule Char :=
  firstOf [
    do
      word "\\"
      satisfying fun c => c = '"' || c = '\'',
    satisfying (· ≠ quote)]

def quotedText (quote : Char) : Rule Json := do
  exactly [quote]
  let cs ← many (quotedChar quote)
  exactly [quote]
  return .str (String.ofList cs)

def mostDigits : Nat := 4300

/-- A whole number. Digits that make up no decimal number mean nothing. -/
def integer : Rule Json := do
  let sign ← optional (word "-")
  let digits ← many1 (satisfying Text.isDigit)
  let n ← orBreak (if digits.length ≤ mostDigits then Text.decimalNumber? digits else none)
  return .int (if sign.isSome then -(n : Int) else n)

def constant (spelling : String) (v : Json) : Rule Json := do
  word spelling
  return v

/-- A value written out. -/
def literal : Rule Json :=
  firstOf [quotedText '"', quotedText '\'', integer, constant "false" (.bool false),
    constant "true" (.bool true), constant "null" .null, constant "undefined" .null]

/-! ## Arguments -/

/-- A call of a helper inside a tag, given how its arguments are read. -/
def call (arguments : Rule (List TemplateExpr)) : Rule TemplateExpr := do
  word "("
  blanks
  let name ← path
  let args ← arguments
  blanks
  word ")"
  return .call (String.join name) args

def argument (arguments : Rule (List TemplateExpr)) : Rule TemplateExpr :=
  firstOf [
    do return .literal (← literal),
    do return .path (← path),
    call arguments]

def namedArgument (arguments : Rule (List TemplateExpr)) : Rule TemplateExpr := do
  let name ← label
  word "="
  let value ← argument arguments
  return .named name value

/-- The arguments of a tag or a call, calls nested at most `fuel` deep. -/
def arguments : Nat → Rule (List TemplateExpr)
  | 0 => succeed []
  | fuel + 1 => many do
    let _ ← many1 (satisfying isSeparator)
    firstOf [namedArgument (arguments fuel), argument (arguments fuel)]

/-! ## Parts -/

/-- A path and its arguments, with the end of the tag. -/
def valueInside (fuel : Nat) : Rule (List String × List TemplateExpr) := do
  blanks
  let name ← path
  let args ← arguments fuel
  blanks
  closing
  return (name, args)

/-- The name of a block and its arguments, with the end of the tag. -/
def blockInside (fuel : Nat) : Rule (String × List TemplateExpr) := do
  blanks
  let name ← symbol
  let args ← arguments fuel
  blanks
  closing
  return (name, args)

/-- An end of line; it stands as a line feed. -/
def lineEnd : Rule (List Char) := do
  notAt opening
  let _ ← optional (word "\r")
  word "\n"
  return ['\n']

/-- Characters of a class up to the next tag. -/
def untilTag (p : Char → Bool) : Rule (List Char) :=
  many1 do
    notAt opening
    satisfying p

/-- Text up to the next tag, or to the end of what comes first in it: one end of line, or blanks. -/
def plainText : Rule TemplatePart := do
  let cs ← firstOf [lineEnd, untilTag fun c => c = ' ' || c = '\t', untilTag fun _ => true]
  return .text (String.ofList cs)

def comment : Rule TemplatePart := do
  opening
  word "!"
  let _ ← many do
    notAt closing
    satisfying fun _ => true
  closing
  return .text ""

/-- A value to fill in escaped. -/
def escapedValue (fuel : Nat) : Rule TemplatePart := do
  opening
  let (name, args) ← valueInside fuel
  return .value true name args

/-- A value to fill in as it is. -/
def plainValue (fuel : Nat) : Rule TemplatePart :=
  firstOf [
    do
      opening
      word "\x7b"
      let (name, args) ← valueInside fuel
      word "\x7d"
      return .value false name args,
    do
      opening
      word "&"
      let (name, args) ← valueInside fuel
      return .value false name args]

/-- The name of another template: a word, in quotes or brackets if need be, or a call that gives
it. -/
def templateName (fuel : Nat) : Rule TemplateExpr :=
  firstOf [
    call (arguments fuel),
    do
      notAt branch
      let _ ← optional (firstOf [word "[", word "\""])
      let cs ← many1 do
        notAt closing
        satisfying fun c => !isSeparator c && c ≠ ']' && c ≠ '"'
      let _ ← optional (firstOf [word "]", word "\""])
      return .literal (.str (String.ofList cs))]

/-- Another template to insert, with what it is handed. -/
def otherTemplate (fuel : Nat) : Rule TemplatePart := do
  opening
  word ">"
  blanks
  let name ← templateName fuel
  let args ← arguments fuel
  blanks
  closing
  return .other name args

def blockEnd (name : String) : Rule Unit := do
  opening
  word "/"
  let found ← symbol
  check (found = name)
  closing

def verbatimEnd (name : String) : Rule Unit := do
  opening
  blockEnd name
  closing

def verbatimBlock (fuel : Nat) : Rule TemplatePart := do
  opening
  opening
  let (name, args) ← blockInside fuel
  closing
  let cs ← many do
    notAt (verbatimEnd name)
    satisfying fun _ => true
  verbatimEnd name
  return .verbatim name args (String.ofList cs)

/-- A block that opens with the mark, to its end, given how its inside is read. -/
def blockPart (parts : Rule Template) (fuel : Nat) (mark : Char) : Rule TemplatePart := do
  opening
  exactly [mark]
  let (name, args) ← blockInside fuel
  let body ← parts
  let alternative ← optional do
    opening
    branch
    parts
  blockEnd name
  let alternative := alternative.getD []
  return if mark = '^' then .block name args alternative body else .block name args body alternative

/-- A part, given how the inside of a block is read. -/
def part (parts : Rule Template) (fuel : Nat) : Rule TemplatePart :=
  firstOf [plainText, blockPart parts fuel '#', blockPart parts fuel '^', comment, escapedValue fuel,
    plainValue fuel, otherTemplate fuel, verbatimBlock fuel]

/-- Parts as long as they go, blocks nested at most `fuel` deep. -/
def parts : Nat → Rule Template
  | 0 => succeed []
  | fuel + 1 => many (part (parts fuel) fuel)

end Compendium.Template
