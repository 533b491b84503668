import Compendium.Template.Grammar
import Compendium.Template.Spelling
import Compendium.Template.Tidy

/-!
# Reading templates

A text is tidied, read by the grammar, and its words are settled. A text that cannot be read to its
end is a template as far as it can be read if the reader was still looking at its end, and a fault
otherwise.
-/

namespace Compendium.Template

/-- What stands before the next blank, or through the next brace, or the next two if they stand
together. -/
def throughBrace (brace : Char) : List Char → List Char
  | [] => []
  | c :: rest =>
    if c = brace then c :: (if rest.head? = some brace then [brace] else [])
    else if Text.isBlank c then []
    else c :: throughBrace brace rest

/-- The word around a place in a text, with the braces at its ends. -/
def wordAt (text : List Char) (place : Nat) : List Char :=
  (throughBrace '\x7b' (text.take place).reverse).reverse ++ throughBrace '\x7d' (text.drop place)

/-- The column of a place: on the first line it counts from nought, on a later one from one. -/
def columnAt (text : List Char) (place : Nat) : Nat :=
  let before := ((text.take place).reverse.takeWhile (· ≠ '\n')).length
  if before < place then before + 1 else place

/-- The fault of a text of which nothing beyond a place was looked at. The line is that of the end
of the text. -/
def unparsedAt (text : List Char) (place : Nat) : TemplateFault :=
  .unparsed (columnAt text place) (text.count '\n' + 1) (String.ofList (wordAt text place))

/-- The template that a text is. Every nested block or call takes a character, so the length is
fuel enough. -/
def ofString (s : String) : Except TemplateFault Template :=
  let text := tidy s.toList
  match (parts (text.length + 1)).run? text with
  | some (some template, furthest) =>
    if furthest < text.length then .error (unparsedAt text furthest) else settled template
  | _ => .error .malformed

end Compendium.Template
