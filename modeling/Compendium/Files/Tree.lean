import Compendium.Fields
import Compendium.Text.Quoted

/-!
# A tree of files

Files and directories under one root, by the names on the way to them. A path may step up, and
every step on the way must be a directory that exists. Writing replaces one file and touches no
other (`node?_put_other`); when it fails the tree stays as it is, because no tree comes back.
-/

namespace Compendium

/-- A path relative to the root, step by step. -/
structure Path where
  steps : List String
deriving DecidableEq, Repr

namespace Path

/-- The steps between the slashes of a text; empty steps and single dots stay where they are. -/
def ofString (s : String) : Path :=
  let steps := ((s.toList.splitOn '/').map String.ofList).filter fun p => p ≠ "" ∧ p ≠ "."
  if s.toList.head? = some '/' then ⟨"/" :: steps⟩ else ⟨steps⟩

/-- The path as a text. The root is a dot. -/
def text (p : Path) : String :=
  match p.steps with
  | [] => "."
  | "/" :: rest => "/" ++ "/".intercalate rest
  | steps => "/".intercalate steps

def child (p : Path) (name : String) : Path := ⟨p.steps ++ [name]⟩

/-- One step more behind steps of which none leads up again. A step up takes back a step down; at
the root of all paths it leads nowhere. -/
def advance (done : List String) (step : String) : List String :=
  if step = ".." then
    match done.getLast? with
    | none => [".."]
    | some ".." => done ++ [".."]
    | some "/" => done
    | some _ => done.dropLast
  else done ++ [step]

/-- The path without steps up, as far as they lead back over steps down. -/
def resolved (p : Path) : Path := ⟨p.steps.foldl advance []⟩

/-- The path of something as it is seen from where the directory is seen. -/
def join (here p : Path) : Path := if p.steps.head? = some "/" then p else ⟨here.steps ++ p.steps⟩

end Path

inductive Node where
  | directory
  | file (octets : List UInt8)
deriving DecidableEq, Repr

/-- Why the file system refuses an operation. -/
inductive FileCause where
  | notFound
  | exists
  | notDirectory
  | isDirectory
deriving DecidableEq, Repr

/-- An operation that was refused, and the path that it was for. -/
structure FileFault where
  cause : FileCause
  path : Path
deriving DecidableEq, Repr

def FileCause.number : FileCause → Nat
  | .notFound => 2
  | .exists => 17
  | .notDirectory => 20
  | .isDirectory => 21

def FileCause.message : FileCause → String
  | .notFound => "No such file or directory"
  | .exists => "File exists"
  | .notDirectory => "Not a directory"
  | .isDirectory => "Is a directory"

def FileFault.message (f : FileFault) : String :=
  s!"[Errno {f.cause.number}] {f.cause.message}: {Text.quoted f.path.text}"

/-- The nodes by the names on the way to them from the root, which is a directory and not listed. -/
structure Tree where
  nodes : List (List String × Node)

namespace Tree

def empty : Tree := ⟨[]⟩

def node? (t : Tree) (place : List String) : Option Node :=
  if place = [] then some .directory else Fields.get? t.nodes place

def put (t : Tree) (place : List String) (node : Node) : Tree := ⟨Fields.put t.nodes place node⟩

def erase (t : Tree) (place : List String) : Tree := ⟨t.nodes.filter (·.1 ≠ place)⟩

/-- The place that one step from a directory leads to. There is nothing above a root. -/
def stepFrom (here : List String) (step : String) : List String :=
  if step = ".." then (if here = ["/"] then here else here.dropLast) else here ++ [step]

@[simp]
theorem stepFrom_down (here : List String) {step : String} (h : step ≠ "..") :
    stepFrom here step = here ++ [step] := if_neg h

/-- The place that steps from a directory lead to. All but the last must lead to a directory. -/
def walk (t : Tree) (here : List String) : List String → Except FileCause (List String)
  | [] => .ok here
  | step :: rest =>
    if rest.isEmpty then .ok (stepFrom here step)
    else
      match t.node? (stepFrom here step) with
      | some .directory => walk t (stepFrom here step) rest
      | some (.file _) => .error .notDirectory
      | none => .error .notFound

def locate (t : Tree) (p : Path) : Except FileCause (List String) := t.walk [] p.steps

/-- The node that a path leads to. -/
def at? (t : Tree) (p : Path) : Option Node :=
  match t.locate p with
  | .ok place => t.node? place
  | .error _ => none

def isDirectory (t : Tree) (p : Path) : Bool := t.at? p = some .directory

def contains (t : Tree) (p : Path) : Bool := (t.at? p).isSome

def octets? (t : Tree) (p : Path) : Option (List UInt8) :=
  match t.at? p with
  | some (.file octets) => some octets
  | _ => none

/-- Writes a file, new or in place of the one before. -/
def write (t : Tree) (p : Path) (octets : List UInt8) : Except FileFault Tree :=
  match t.locate p with
  | .error cause => .error ⟨cause, p⟩
  | .ok place =>
    if t.node? place = some .directory then .error ⟨.isDirectory, p⟩
    else .ok (t.put place (.file octets))

def remove (t : Tree) (p : Path) : Except FileFault Tree :=
  match t.locate p with
  | .error cause => .error ⟨cause, p⟩
  | .ok place =>
    match t.node? place with
    | none => .error ⟨.notFound, p⟩
    | some .directory => .error ⟨.isDirectory, p⟩
    | some (.file _) => .ok (t.erase place)

def makeDirectory (t : Tree) (p : Path) : Except FileCause Tree := do
  let place ← t.locate p
  if (t.node? place).isSome then .error .exists else return t.put place .directory

/-- Makes a directory, given by its steps from the last to the first, and those above it that are
missing. A directory that exists is as good. What was made above stays made if the last fails. -/
def makeUpwards (t : Tree) : List String → Tree × Option FileFault
  | [] => (t, none)
  | step :: above =>
    let p : Path := ⟨(step :: above).reverse⟩
    match t.makeDirectory p with
    | .ok t' => (t', none)
    | .error .notFound =>
      match makeUpwards t above with
      | (t', some fault) => (t', some fault)
      | (t', none) =>
        match t'.makeDirectory p with
        | .ok t'' => (t'', none)
        | .error cause => (t', if t'.isDirectory p then none else some ⟨cause, p⟩)
    | .error cause => (t, if t.isDirectory p then none else some ⟨cause, p⟩)

/-- Makes a directory and those above it that are missing. -/
def makeDirectories (t : Tree) (p : Path) : Tree × Option FileFault :=
  t.makeUpwards p.steps.reverse

/-- The tree without everything at and below a place. -/
def prune (t : Tree) (p : Path) : Tree :=
  match t.locate p with
  | .ok place => ⟨t.nodes.filter fun n => !place.isPrefixOf n.1⟩
  | .error _ => t

/-- The tree with a file or directory planted at a path, and the directories above it. -/
def plant (t : Tree) (p : Path) (node : Node) : Tree :=
  let t' := (t.makeDirectories ⟨p.steps.dropLast⟩).1
  match node, t'.locate p with
  | .directory, _ => (t'.makeDirectories p).1
  | .file octets, .ok place => t'.put place (.file octets)
  | .file _, .error _ => t'

/-! ## Nodes after `put` -/

theorem node?_put_self {t : Tree} {place : List String} (node : Node) (h : place ≠ []) :
    (t.put place node).node? place = some node := by
  rw [node?, if_neg h, put, Fields.get?_put_self]

/-- Setting one node leaves every other as it is. -/
theorem node?_put_other {t : Tree} {place other : List String} (node : Node) (h : other ≠ place) :
    (t.put place node).node? other = t.node? other := by
  rw [node?, put, Fields.get?_put_other node h, node?]

end Tree

end Compendium
