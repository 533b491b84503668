import Compendium.Template.View
import Compendium.Text.Class

/-!
# Calling what values have of their own

A template that fills in an operation calls it, with the surroundings as first argument. Few
operations can do anything with that: most refuse it, a look-up finds nothing and gives its fallback,
and a text with places to fill is filled in.
-/

namespace Compendium.Template

structure Arguments where
  positional : List View
  named : List (String × View)

/-- The arguments in the order of the parameters; none if one is too many, unknown or given
twice. -/
def Arguments.bind? (args : Arguments) (params : List String) : Option (List (Option View)) :=
  let unfilled := params.drop args.positional.length
  if params.length < args.positional.length then none
  else if args.named.all (fun n => n.1 ∈ unfilled) && (args.named.map (·.1)).Nodup then
    some (args.positional.map some ++ unfilled.map fun p => args.named.lookup p)
  else none

/-- A view as a text. -/
def View.display? : View → Option String
  | .plain v | .scope v _ _ => some v.display
  | _ => none

/-! ## Texts with places -/

/-- A text with its places filled in, `skip` characters left out first. A place is a name in braces,
two braces of a kind stand for one, and `next` is the number of the next place without a name. -/
def filledFrom? (value : Nat → List Char → Option String) (next : Nat) :
    Nat → List Char → Option (List Char)
  | _, [] => some []
  | skip + 1, _ :: rest => filledFrom? value next skip rest
  | 0, c :: rest =>
    if c = '\x7b' ∨ c = '\x7d' then
      if rest.head? = some c then (filledFrom? value next 1 rest).map (c :: ·)
      else if c = '\x7d' then none
      else
        let name := rest.takeWhile (· ≠ '\x7d')
        if name.length < rest.length then do
          let out ← value next name
          let more ← filledFrom? value (if name.isEmpty then next + 1 else next) (name.length + 1) rest
          return out.toList ++ more
        else none
    else (filledFrom? value next 0 rest).map (c :: ·)

/-- A text with its places filled in. -/
def filled (value : Nat → List Char → Option String) (s : String) : Except TemplateFault View :=
  match filledFrom? value 0 0 s.toList with
  | some cs => .ok (.plain (.str (String.ofList cs)))
  | none => .error .absent

/-- The value for a place: that of its number, or of its label. -/
def argumentFor? (this : View) (args : Arguments) (next : Nat) (name : List Char) : Option String :=
  let index : Option Nat := if name.isEmpty then some next else Text.decimalNumber? name
  match index with
  | some i => ((this :: args.positional)[i]?).bind View.display?
  | none => (args.named.lookup (String.ofList name)).bind View.display?

/-- The value for a place that has the name of something in the surroundings. -/
def surroundingFor? (root : Json) (this : View) (name : List Char) : Option String :=
  if name.isEmpty ∨ (Text.decimalNumber? name).isSome then none
  else
    match this with
    | .scope here outer loop => (stepFrom root here outer loop (String.ofList name)).display?
    | _ => none

/-! ## Calls -/

def texts? (items : List Json) : Option (List String) :=
  items.mapM fun v =>
    match v with
    | .str s => some s.shown
    | _ => none

/-- What takes the place of a character, given what stands under its code: a text, another character
by its code, or nothing. -/
def replaced? : Json → Option (List Char)
  | .str s => some s.shown.toList
  | .int n => if 0 ≤ n ∧ n < 0x110000 then some [Char.ofNat n.toNat] else none
  | .null => some []
  | _ => none

/-- A text with each character replaced by the item under its code, if there is one. -/
def translated (items : List Json) (s : String) : Except TemplateFault View :=
  match s.toList.mapM fun c => (items[c.toNat]?).elim (some [c]) replaced? with
  | some cs => .ok (.plain (.str (String.ofList cs.flatten)))
  | none => .error .misuse

/-- What an operation of a text gives without further arguments. -/
def callTextOwn (root : Json) (s name : String) (this : View) : Except TemplateFault View :=
  match name with
  | "format_map" => filled (fun _ => surroundingFor? root this) s
  | "__mod__" => if '%' ∈ s.toList then .error .absent else .ok (.plain (.str s))
  | "__class__" =>
    match this.display? with
    | some t => .ok (.plain (.str t))
    | none => .error .misuse
  | "join" => do
    match texts? (← this.items) with
    | some ts => return .plain (.str (s.intercalate ts))
    | none => .error .misuse
  | "translate" => do if s.isEmpty then return .plain (.str s) else translated (← this.items) s
  | _ => .error .misuse

/-- What an operation gives without further arguments. -/
def callAlone (root owner : Json) (name : String) (this : View) : Except TemplateFault View :=
  if name ∈ leavesAlone owner then .ok (.plain (.str "NotImplemented"))
  else
    match owner, name with
    | .obj _, "get" | .obj _, "setdefault" | .arr _, "append" => .ok .null
    | .obj _, "pop" | .obj _, "__getitem__" | .obj _, "__delitem__" => .error .absent
    | .arr _, "index" | .arr _, "remove" => .error .absent
    | .arr _, "count" => .ok (.plain (.int 0))
    | .obj _, "__contains__" | .arr _, "__contains__" => .ok (.plain (.bool false))
    | .bool _, "__class__" => do return .plain (.bool (← this.truthy))
    | .arr _, "__class__" => do return .plain (.arr (← this.items))
    | .str s, name => callTextOwn root s.shown name this
    | _, _ => .error .misuse

/-- What an operation gives, called with the surroundings and further arguments. -/
def callOwn (root owner : Json) (name : String) (this : View) (args : Arguments) :
    Except TemplateFault View :=
  match owner, name, args.positional, args.named with
  | .str s, "format", _, _ => filled (argumentFor? this args) s.shown
  | _, "__subclasshook__", _, [] => .ok (.plain (.str "NotImplemented"))
  | .obj _, "__init__", _, _ | .arr _, "__init__", _, _ => .error .misuse
  | _, "__init__", _, _ => .ok .null
  | owner, name, [], [] => callAlone root owner name this
  | .int _, "__pow__", [_], [] | .int _, "__rpow__", [_], [] | .bool _, "__pow__", [_], []
  | .bool _, "__rpow__", [_], [] | .float _, "__pow__", [.plain .null], []
  | .float _, "__rpow__", [.plain .null], [] => .ok (.plain (.str "NotImplemented"))
  | .obj _, "get", [v], [] | .obj _, "setdefault", [v], [] | .obj _, "pop", [v], [] => .ok v
  | _, _, _, _ => .error .misuse

end Compendium.Template
