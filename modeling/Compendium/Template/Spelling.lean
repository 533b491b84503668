import Compendium.Template.Basic
import Compendium.Text.Class
import Compendium.Text.Hex

/-!
# The words of a template

A path, the name of a call and the name of another template may hold escapes: a backslash and a
letter, or the code of a character. A text may not; its backslashes stand for themselves. A word
that holds a quote or an end of line as it is, or an escape that is no character, means nothing, and
neither does a list of arguments whose labels do not fit. Main statement: a word without anything to
escape is settled as it is (`unescape?_of_plain`).
-/

namespace Compendium.Template

/-! ## Escapes -/

/-- The character that a letter after a backslash stands for. -/
def escaped? : Char → Option Char
  | 'n' => some '\n'
  | 't' => some '\t'
  | 'r' => some '\r'
  | 'a' => some '\x07'
  | 'b' => some '\x08'
  | 'f' => some '\x0c'
  | 'v' => some '\x0b'
  | '\\' => some '\\'
  | '\'' => some '\''
  | '"' => some '"'
  | _ => none

/-- The character of a code, or the replacement character for half a character. -/
def charOfCode? (n : Nat) : Option Char :=
  if 0x10FFFF < n then none
  else if 0xD800 ≤ n ∧ n < 0xE000 then some '\uFFFD'
  else some (Char.ofNat n)

def hexChar? (count : Nat) (cs : List Char) : Option Char :=
  if cs.length < count then none else (Text.hexNumber? (cs.take count)).bind charOfCode?

def isOctal (c : Char) : Bool := '0' ≤ c && c ≤ '7'

/-- What an escape stands for, given what follows its backslash, and how many characters it takes. A
letter without a meaning stands for itself, after the backslash. -/
def escapeAt? (cs : List Char) : Option (List Char × Nat) :=
  match cs with
  | [] => none
  | '\r' :: '\n' :: _ => some ([], 2)
  | c :: rest =>
    if c = '\n' ∨ c = '\r' then some ([], 1)
    else if c = '\x00' ∨ c = 'N' then none
    else if c = 'x' then (hexChar? 2 rest).map fun d => ([d], 3)
    else if c = 'u' then (hexChar? 4 rest).map fun d => ([d], 5)
    else if c = 'U' then (hexChar? 8 rest).map fun d => ([d], 9)
    else if isOctal c then
      let digits := (cs.take 3).takeWhile isOctal
      some ([Char.ofNat (Nat.ofDigitChars 8 digits 0)], digits.length)
    else
      match escaped? c with
      | some d => some ([d], 1)
      | none => some (['\\', c], 1)

/-- The word with its escapes resolved, after `skip` characters are left out. -/
def unescapeFrom? (quote : Char) : Nat → List Char → Option (List Char)
  | _, [] => some []
  | skip + 1, _ :: rest => unescapeFrom? quote skip rest
  | 0, c :: rest =>
    if c = '\\' then do
      let (out, taken) ← escapeAt? rest
      let more ← unescapeFrom? quote taken rest
      return out ++ more
    else if c = quote ∨ c = '\n' ∨ c = '\r' ∨ c = '\x00' then none
    else (unescapeFrom? quote 0 rest).map (c :: ·)

/-- The word with its escapes resolved, if it can stand between the given quotes. -/
def unescape? (quote : Char) (word : String) : Option String :=
  (unescapeFrom? quote 0 word.toList).map String.ofList

theorem unescapeFrom?_of_plain {quote : Char} {cs : List Char}
    (h : ∀ c ∈ cs, c ∉ ['\\', quote, '\n', '\r', '\x00']) : unescapeFrom? quote 0 cs = some cs := by
  induction cs with
  | nil => rfl
  | cons c rest ih =>
    have hc := h c (by simp)
    simp only [List.mem_cons, List.not_mem_nil, or_false, not_or] at hc
    rw [unescapeFrom?, if_neg hc.1, if_neg (by simp [hc.2]), ih fun d hd => h d (by simp [hd])]
    rfl

theorem unescape?_of_plain {quote : Char} {word : String}
    (h : ∀ c ∈ word.toList, c ∉ ['\\', quote, '\n', '\r', '\x00']) :
    unescape? quote word = some word := by
  rw [unescape?, unescapeFrom?_of_plain h]
  simp

/-! ## Paths -/

/-- The spellings of a step that stays where it is. -/
def stays : List String := ["", "this", ".", "/"]

def settledStep? (s : String) : Option String := if s ∈ stays then some "" else unescape? '\'' s

def settledPath? (segments : List String) : Option (List String) :=
  segments.mapM settledStep?

/-! ## Arguments -/

/-- The words that are no labels. -/
def reservedWords : List String :=
  ["False", "None", "True", "__debug__", "and", "as", "assert", "async", "await", "break", "class",
   "continue", "def", "del", "elif", "else", "except", "finally", "for", "from", "global", "if",
   "import", "in", "is", "lambda", "nonlocal", "not", "or", "pass", "raise", "return", "try",
   "while", "with", "yield"]

/-- The word can be a label. -/
def isLabel (s : String) : Bool :=
  s ∉ reservedWords && s.toList.all fun c => !Text.inRanges Text.otherNumberRanges c.toNat

def label? : TemplateExpr → Option String
  | .named label _ => some label
  | _ => none

/-- The arguments without a label come first, and every label is one and stands once. -/
def labelsFit (args : List TemplateExpr) : Bool :=
  let labels := args.filterMap label?
  (args.dropWhile fun e => (label? e).isNone).all (fun e => (label? e).isSome) &&
    labels.all isLabel && labels.Nodup

mutual

/-- An argument with its words settled. -/
def settledExpr? : TemplateExpr → Option TemplateExpr
  | .path segments => (settledPath? segments).map .path
  | .literal (.str s) => if '\x00' ∈ s.shown.toList then none else some (.literal (.str s))
  | .literal v => some (.literal v)
  | .call name args => do
    let settled ← settledExprs? args
    let name ← unescape? '"' name
    if labelsFit args then return .call name settled else none
  | .named label value => (settledExpr? value).map (.named label)

def settledExprs? : List TemplateExpr → Option (List TemplateExpr)
  | [] => some []
  | e :: rest => do
    let e ← settledExpr? e
    let rest ← settledExprs? rest
    return e :: rest

end

def settledArguments? (args : List TemplateExpr) : Option (List TemplateExpr) :=
  if labelsFit args then settledExprs? args else none

/-- The name of another template. -/
def settledName? : TemplateExpr → Option TemplateExpr
  | .literal (.str s) => (unescape? '"' s.shown).map fun name => .literal (.str name)
  | e => settledExpr? e

/-! ## Parts -/

mutual

def settledPart? : TemplatePart → Option TemplatePart
  | .text s => some (.text s)
  | .value escaped segments args => do
    return .value escaped (← settledPath? segments) (← settledArguments? args)
  | .block name args body alternative => do
    let args ← settledArguments? args
    let body ← settledParts? body
    let alternative ← settledParts? alternative
    return .block name args body alternative
  | .verbatim name args body => do return .verbatim name (← settledArguments? args) body
  | .other name args => do return .other (← settledName? name) (← settledExprs? args)

def settledParts? : List TemplatePart → Option (List TemplatePart)
  | [] => some []
  | p :: rest => do
    let p ← settledPart? p
    let rest ← settledParts? rest
    return p :: rest

end

mutual

/-- The part hands another template more than one argument without a label. -/
def handsTooMuch : TemplatePart → Bool
  | .other _ args => 1 < (args.filter fun e => (label? e).isNone).length
  | .block _ _ body alternative => anyHandsTooMuch body || anyHandsTooMuch alternative
  | _ => false

def anyHandsTooMuch : List TemplatePart → Bool
  | [] => false
  | p :: rest => handsTooMuch p || anyHandsTooMuch rest

end

/-- The template with its words settled. -/
def settled (t : Template) : Except TemplateFault Template :=
  if anyHandsTooMuch t then .error .extraArgument
  else
    match settledParts? t with
    | some t => .ok t
    | none => .error .malformed

end Compendium.Template
