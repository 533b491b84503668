import Compendium.Template.Operation

/-!
# Helpers

A helper gives a value, or decides how often, and of what, the inside of a block is rendered. The
helpers `default` and `join` give values, `lookup` a part of a value, `log` nothing; `if`, `unless`,
`each` and `with` decide. A helper that decides expects what a block hands it as its first argument,
so it fails where it stands by itself.
-/

namespace Compendium.Template

/-- What stands where a value is missing. -/
def placeholder : String := "—"

/-- The names of helpers that decide about a block. -/
def blockHelpers : List String := ["blockHelperMissing", "each", "if", "unless", "with"]

/-- The names of all helpers, in their order. -/
def helpers : List String :=
  ["blockHelperMissing", "each", "if", "helperMissing", "log", "unless", "with", "lookup", "default",
   "join"]

/-! ## Helpers that give values -/

/-- The value, or a fallback where it counts as missing. -/
def defaultTo (value : View) (fallback : Option View) : Except TemplateFault View := do
  return if ← value.truthy then value else fallback.getD (.plain (.str placeholder))

/-- Items with a separator between, which must be a text. -/
def joined (items : View) (separator : Option View) : Except TemplateFault View :=
  match separator.getD (.plain (.str ", ")) with
  | .plain (.str between) => do
    if ← items.truthy then
      return .plain (.str (between.shown.intercalate ((← items.items).map Json.display)))
    else return .plain (.str "")
  | _ => .error .absent

/-- The number that an index is; a truth value is one too. -/
def index? : Json → Option Int
  | .int n => some n
  | .bool b => some (if b then 1 else 0)
  | _ => none

/-- The item of a text or a list under an index. -/
def itemUnder (v key : Json) : View :=
  match v with
  | .arr items => (((index? key).bind (itemAt? items)).map .plain).getD .null
  | .str s => (((index? key).bind (itemAt? (letters s.shown))).map .plain).getD .null
  | _ => .null

/-- The part of what a block hands its helper. Its inside and its alternative are no values. -/
def handedPart (root : Json) (name : String) : Except TemplateFault View :=
  match name with
  | "root" => .ok (.plain root)
  | "helpers" => .ok (.plain (.ofTexts helpers))
  | "fn" | "inverse" => .error .misuse
  | _ => .ok .null

/-- The part of a value under a key that is itself a value. -/
def lookupPart (root : Json) (value key : View) : Except TemplateFault View :=
  match value, key with
  | .handed root, .plain (.str name) => handedPart root name.shown
  | .plain (.obj fields), .plain (.str name) =>
    .ok (((Fields.get? fields name).map .plain).getD .null)
  | .scope here outer loop, .plain (.str name) => .ok (stepFrom root here outer loop name.shown)
  | .plain v, .plain key | .scope v _ _, .plain key => .ok (itemUnder v key)
  | _, _ => .ok .null

/-- What stands in for a value that leads nowhere: nothing, but it takes no arguments. -/
def missing (name : String) (args : Arguments) : Except TemplateFault View :=
  if !args.named.isEmpty then .error .misuse
  else if args.positional.isEmpty then .ok .null
  else .error (.noProperty name)

/-- What stands in for a value, called by its own name: the first argument is the name. -/
def missingByName (args : Arguments) : Except TemplateFault View :=
  match args.positional, args.named with
  | [], [n] => if n.1 = "name" then .ok .null else .error .misuse
  | name :: rest, named =>
    match name.display? with
    | some name => missing name ⟨rest, named⟩
    | none => missing "" ⟨rest, named⟩
  | _, _ => .error .misuse

/-! ## Helpers without a block -/

/-- Renders the inside of a block, or its alternative, where there is no block: the value that stands
in its place is at best an object with a field of that name, and nothing to render. -/
def renderWithout (block : View) (name : String) : Except TemplateFault View :=
  match block with
  | .plain (.obj fields) =>
    if (Fields.get? fields name).isSome then .error .misuse else .error .absent
  | _ => .error .misuse

/-- The value if it is one, and what it gives if it is an operation. -/
def called (root : Json) (this : View) : View → Except TemplateFault View
  | .operation owner name => callOwn root owner name this ⟨[], []⟩
  | v => .ok v

/-- Renders an item of a repeated block where there is no block. -/
def renderItemsWithout (block : View) : Except TemplateFault View :=
  match block with
  | .plain (.obj fields) =>
    if (Fields.get? fields "root").isNone then .error .absent
    else
      match renderWithout block "fn" with
      | .error .misuse => .ok (.plain (.str ""))
      | result => result
  | .scope _ _ _ => .ok (.plain (.str ""))
  | _ => .error .misuse

/-- What `each` comes to where there is no block. -/
def eachWithout (block argument : View) : Except TemplateFault View := do
  if argument.isFilled then
    match argument with
    | .scope (.obj _) _ _ => .error .misuse
    | _ => renderItemsWithout block
  else renderWithout block "inverse"

/-- What a helper that decides about a block comes to where there is none. -/
def decideWithout (root : Json) (this block argument : View) (name : String) :
    Except TemplateFault View := do
  match name with
  | "if" =>
    let present ← (← called root this argument).truthy
    renderWithout block (if present then "fn" else "inverse")
  | "unless" => if ← argument.truthy then return .null else renderWithout block "fn"
  | "each" => eachWithout block argument
  | "with" => renderWithout block "fn"
  | _ =>
    match ← called root this argument with
    | .plain (.str "") => renderWithout block "fn"
    | .plain (.arr items) =>
      if items.isEmpty then renderWithout block "inverse" else renderItemsWithout block
    | v => renderWithout block (if ← v.truthy then "fn" else "inverse")

def callHelper (root : Json) (this : View) (name : String) (args : Arguments) :
    Except TemplateFault View :=
  match name with
  | "default" =>
    match args.bind? ["value", "fallback"] with
    | some [some value, fallback] => defaultTo value fallback
    | _ => .error .misuse
  | "join" =>
    match args.bind? ["items", "separator"] with
    | some [some items, separator] => joined items separator
    | _ => .error .misuse
  | "lookup" =>
    match args.bind? ["context", "key"] with
    | some [some value, some key] => lookupPart root value key
    | _ => .error .misuse
  | "log" =>
    match args.bind? ["context"] with
    | some [some _] => .ok .null
    | _ => .error .misuse
  | "helperMissing" => missingByName args
  | _ =>
    match args.bind? ["options", "context"] with
    | some [some block, some argument] => decideWithout root this block argument name
    | _ => .error .misuse

end Compendium.Template
