import Compendium.Json.Display

/-!
# Templates

A template is a sequence of parts: plain text, values to fill in, and blocks that repeat or leave
out what is inside them. A path leads from the value at hand to one of its parts, name by name.
-/

namespace Compendium

/-- What a template may pass to a helper. A call hands the result of one helper to another. -/
inductive TemplateExpr where
  | path (segments : List String)
  | literal (v : Json)
  | call (name : String) (args : List TemplateExpr)
  | named (label : String) (value : TemplateExpr)

/-- A part of a template. A block has a body and an alternative, each of which may be empty; an
inverse block is one with the two exchanged, and a verbatim block is one whose body is a text. -/
inductive TemplatePart where
  | text (s : String)
  | value (escaped : Bool) (segments : List String) (args : List TemplateExpr)
  | block (name : String) (args : List TemplateExpr) (body alternative : List TemplatePart)
  | verbatim (name : String) (args : List TemplateExpr) (body : String)
  | other (name : TemplateExpr) (args : List TemplateExpr)

/-- A template as its parts. -/
abbrev Template := List TemplatePart

/-- Why a template gives no text: it cannot be read to its end, hands a template too many arguments
without a name, holds a word that means nothing, asks for another template or for a helper that
does not exist, asks a value for something that it does not hold, or uses a value as what it is
not. -/
inductive TemplateFault where
  | unparsed (column line : Nat) (word : String)
  | extraArgument
  | malformed
  | noPartial (name : String)
  | noProperty (name : String)
  | absent
  | misuse
deriving DecidableEq, Repr

/-- What is wrong, in words; some faults have none. -/
def TemplateFault.message? : TemplateFault → Option String
  | .unparsed column line word =>
    some s!"Template error: Error at character {column} of line {line} near {word}"
  | .extraArgument =>
    some "Template error: An extra positional argument was passed to a partial"
  | .noPartial name => some s!"Template error: The partial {name} could not be found"
  | .noProperty name => some s!"Template error: Could not find property {name}"
  | .malformed | .absent | .misuse => none

end Compendium
