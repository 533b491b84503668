import Compendium.Launcher.Launch

/-!
# The launcher as a program

Reads the files that a launch looks at, launches, writes the files that it changed, and prints what
the launch prints and the commands that it would start.
-/

namespace Compendium.Launcher

/-- The variables that a launch looks at. -/
def consulted : List String := ["HOST", "PORT", "FRONTEND_PORT", "DATA_DIR", "CATALOG_DIR"]

/-- The environment as far as a launch looks at it. -/
def readEnvironment : IO Environment := do
  let values ← consulted.mapM fun name => do
    return (← IO.getEnv name).map (name, ·)
  return values.filterMap id

def filesOf (o : Options) : List Path :=
  let data := Path.ofString (o.data.getD "data")
  let catalog := Path.ofString (o.catalog.getD "presets/catalog")
  [Bookmarks.file data, Settings.file data, frontend.child "package.json"] ++
    Kind.all.map fun k => catalog.child (Catalog.fileName k)

/-- The tree with a file in it, if it can be read. -/
def plantFile (t : Tree) (p : Path) : IO Tree := do
  try
    let octets ← IO.FS.readBinFile p.text
    return t.plant p (.file octets.toList)
  catch _ => return t

/-- Writes the files in which a tree differs from another. -/
def writeChanges (before after : Tree) : IO Unit := do
  for (place, node) in after.nodes do
    let p : Path := ⟨place⟩
    if before.node? place ≠ some node then
      match node with
      | .directory => IO.FS.createDirAll p.text
      | .file octets => IO.FS.writeBinFile p.text ⟨octets.toArray⟩

def Command.line (c : Command) : String :=
  let assignment (name : String) (value : Option String) : List String :=
    match value with
    | some v => [name ++ "=" ++ Text.quoted v]
    | none => []
  " ".intercalate (["cd", Text.quoted c.directory.text, "&&"] ++ assignment "DATA_DIR" c.data ++
    assignment "CATALOG_DIR" c.catalog ++ c.words)

end Compendium.Launcher

open Compendium Launcher in
def main (args : List String) : IO UInt32 := do
  let env ← readEnvironment
  let files := match read args with
    | .options o => filesOf o
    | _ => []
  let tree ← files.foldlM plantFile Tree.empty
  let out := launch args env false ⟨tree, none, none⟩
  writeChanges tree out.session.tree
  for n in out.notices do
    IO.eprintln n.message
  match out.value with
  | .error f =>
    IO.eprintln (f.message?.getD "the stored settings cannot be used")
    return 1
  | .ok l =>
    IO.print l.output
    IO.eprint l.errors
    for c in l.commands do
      IO.println c.line
    return (l.exitCode.getD 0).toUInt32
