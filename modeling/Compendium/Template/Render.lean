import Compendium.Template.Helper
import Compendium.Template.Reader

/-!
# Rendering templates

A template is rendered with a value at hand. What is missing fills in as nothing. A block is rendered
as its helper decides; a block of any other name is rendered for each item of a list of that name,
once for a value that is present, and not at all otherwise. A block that repeats leaves out an item
for which its inside uses a value as what it is not.
-/

namespace Compendium.Template

/-- The results of rendering, one after another. -/
abbrev Rendered := Except TemplateFault (List Char)

/-! ## Filling in -/

/-- A character that must not be taken for markup. -/
def escapeChar : Char → List Char
  | '&' => "&amp;".toList
  | '"' => "&quot;".toList
  | '\'' => "&#x27;".toList
  | '`' => "&#x60;".toList
  | '<' => "&lt;".toList
  | '>' => "&gt;".toList
  | c => [c]

/-- A value as it is filled in. -/
def shown : Json → List Char
  | .null => []
  | .bool true => "true".toList
  | .bool false => "false".toList
  | v => v.display.toList

def View.shown : View → Rendered
  | .plain v => .ok (Template.shown v)
  | .scope here _ _ => .ok here.display.toList
  | _ => .error .misuse

/-- A view as it is filled in, escaped if asked for. -/
def fill (escaped : Bool) (view : View) : Rendered := do
  let cs ← view.shown
  return if escaped then cs.flatMap escapeChar else cs

mutual

/-- The texts that a value is made of, one after another; for an object these are its names. -/
def spread? : Json → Option (List Char)
  | .str s => some s.shown.toList
  | .arr items => spreadAll? items
  | .obj fields => some (fields.flatMap fun f => f.1.shown.toList)
  | _ => none

/-- The texts that some values are made of. -/
def spreadAll? : List Json → Option (List Char)
  | [] => some []
  | v :: rest => do return (← spread? v) ++ (← spreadAll? rest)

end

/-- What a helper that gives a value for a block puts in its place: the texts that the value is made
of, and nothing if it counts as missing. -/
def grown : View → Rendered
  | .plain v => if v.truthy then (spread? v).elim (.error .misuse) .ok else .ok []
  | .handed _ => .ok (handedNames.flatMap String.toList)
  | _ => .error .misuse

/-! ## Values -/

/-- The value of a name that may be a helper, or may lead to an operation. The arguments of a name
that leads to anything else are not looked at, and one that leads nowhere takes none. -/
def callOrFollow (root : Json) (view : View) (segments : List String)
    (args : Except TemplateFault Arguments) : Except TemplateFault View := do
  match segments with
  | [name] =>
    if name ∈ helpers then callHelper root view name (← args)
    else
      match ← follow root view segments with
      | .operation owner operation => callOwn root owner operation view (← args)
      | .plain .null => if name = "" then return .null else missing name (← args)
      | found => return found
  | _ =>
    match ← follow root view segments with
    | .operation owner operation => callOwn root owner operation view (← args)
    | found => return found

/-- The labels that a call keeps for itself. -/
def keptLabels : List String := ["helpers", "name", "context"]

mutual

/-- The view that an argument stands for. -/
def evaluate (root : Json) (view : View) : TemplateExpr → Except TemplateFault View
  | .path segments => follow root view segments
  | .literal v => .ok (.plain v)
  | .named _ value => evaluate root view value
  | .call name args => do
    let args ← evaluateAll root view args
    if args.named.any fun n => n.1 ∈ keptLabels then .error .misuse
    else if name ∈ helpers then callHelper root view name args
    else .error (.noProperty name)

def evaluateAll (root : Json) (view : View) : List TemplateExpr → Except TemplateFault Arguments
  | [] => .ok ⟨[], []⟩
  | e :: rest => do
    let v ← evaluate root view e
    let args ← evaluateAll root view rest
    match e with
    | .named label _ => return ⟨args.positional, (label, v) :: args.named⟩
    | _ => return ⟨v :: args.positional, args.named⟩

end

/-! ## Blocks -/

/-- The values that a repeated block goes through, each with its name in an object. -/
def members : View → Except TemplateFault (List (Option String × Json))
  | .plain (.obj fields) => .ok (fields.map fun f => (some f.1.shown, f.2))
  | v => do return (← v.items).map (none, ·)

/-- The views of values, the first of which has the given index. -/
def loopViews (view : View) : Nat → List (Option String × Json) → List View
  | _, [] => []
  | index, m :: rest =>
    .scope m.2 view (some ⟨index, m.1, index = 0, rest.isEmpty⟩) :: loopViews view (index + 1) rest

/-- What a block comes to: its body for a view, or for each of some views, its alternative, or a text
in its place. -/
inductive Plan where
  | once (view : View)
  | each (views : List View)
  | alternative
  | instead (text : List Char)

/-- The body for each value that a view is made of, or the alternative if there is none. -/
def planEach (view of : View) : Except TemplateFault Plan := do
  if of.isFilled then return .each (loopViews view 0 (← members of)) else return .alternative

/-- The body if it is wanted, otherwise the alternative. -/
def branchOn (view : View) (wanted : Bool) : Plan := if wanted then .once view else .alternative

/-- What a block without a helper comes to, given what its name leads to. -/
def planOfNamed (root : Json) (view found : View) : Except TemplateFault Plan := do
  match ← called root view found with
  | .plain (.str "") => return .once (View.plain (.str "")).opened
  | .plain (.bool true) => return .once view
  | .plain (.arr items) => planEach view (.plain (.arr items))
  | v => return branchOn v.opened (← v.truthy)

/-- What the block of a helper that decides comes to, given its argument. -/
def planOf (root : Json) (view argument : View) : String → Except TemplateFault Plan
  | "each" => planEach view argument
  | "with" => .ok (.once argument.opened)
  | "unless" => do return if ← argument.truthy then .instead [] else .once view
  | "if" => do return branchOn view (← (← called root view argument).truthy)
  | _ => planOfNamed root view argument

/-- What the block of a helper comes to. -/
def planOfHelper (root : Json) (view : View) (name : String) (args : Arguments) :
    Except TemplateFault Plan := do
  if name ∈ blockHelpers then
    match args.bind? ["context"] with
    | some [some argument] => planOf root view argument name
    | _ => .error .misuse
  else
    let value ← callHelper root view name ⟨.handed root :: args.positional, args.named⟩
    return .instead (← grown value)

def plan (root : Json) (view : View) (name : String) (args : Except TemplateFault Arguments) :
    Except TemplateFault Plan := do
  if name ∈ helpers then planOfHelper root view name (← args)
  else planOfNamed root view (← follow root view [name])

def planVerbatim (root : Json) (view : View) (name : String)
    (args : Except TemplateFault Arguments) : Except TemplateFault Plan := do
  if name ∈ helpers then planOfHelper root view name (← args) else return .once view

/-- Some renderings, one after another. -/
def concatenated (parts : List Rendered) : Rendered := do return (← parts.mapM id).flatten

/-- A rendering, or nothing if it uses a value as what it is not. -/
def lenient : Rendered → Rendered
  | .error .misuse => .ok []
  | r => r

def Plan.rendered (body alternative : View → Rendered) (view : View) : Plan → Rendered
  | .once v => body v
  | .each views => concatenated (views.map fun v => lenient (body v))
  | .alternative => alternative view
  | .instead text => .ok text

/-- What names another template that is asked for. No template is known, so there is none. -/
def otherName (name : View) : TemplateFault :=
  match name with
  | .plain (.arr _) | .plain (.obj _) => .misuse
  | name =>
    match name.display? with
    | some name => .noPartial name
    | none => .misuse

mutual

def renderAll (root : Json) : List TemplatePart → View → Rendered
  | [], _ => .ok []
  | p :: rest, view => do
    let front ← renderPart root p view
    let back ← renderAll root rest view
    return front ++ back
termination_by structural parts => parts

def renderPart (root : Json) : TemplatePart → View → Rendered
  | .text s, _ => .ok s.toList
  | .value escaped segments args, view => do
    fill escaped (← callOrFollow root view segments (evaluateAll root view args))
  | .other name args, view => do
    let _ ← evaluateAll root view (args.filter fun e => (label? e).isSome)
    .error (otherName (← evaluate root view name))
  | .verbatim name args text, view => do
    let p ← planVerbatim root view name (evaluateAll root view args)
    p.rendered (fun _ => .ok text.toList) (fun _ => .ok []) view
  | .block name args body alternative, view => do
    let p ← plan root view name (evaluateAll root view args)
    p.rendered (fun v => renderAll root body v) (fun v => renderAll root alternative v) view
termination_by structural part => part

end

def render (t : Template) (value : Json) : Rendered := renderAll value t (View.plain value).opened

/-- A text rendered as a template with a value at hand. -/
def renderText (text : String) (value : Json) : Except TemplateFault String := do
  let t ← ofString text
  return String.ofList (← render t value)

end Compendium.Template
