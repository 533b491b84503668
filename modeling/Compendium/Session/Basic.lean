import Compendium.Bookmarks
import Compendium.Catalog.Files
import Compendium.Settings

/-!
# Sessions

A session is a tree of files with the data directory and the catalog in use. An activity runs on a
session; it gives a value or fails, and either way leaves a session and notices about what was
passed over. What an activity did before it failed stays done.
-/

namespace Compendium

/-- Files, and the data directory and catalog in use, if there are any. -/
structure Session where
  tree : Tree
  storage : Option Path
  catalog : Option Catalog

/-- A session with no files in which nothing is in use. -/
def Session.fresh : Session := ⟨Tree.empty, none, none⟩

/-- Something worth telling that is no failure. -/
inductive Notice where
  | skipped (r : SkippedRecord)
  | bookmarks (n : Bookmarks.Notice)
  | demoKeyMissing (key : String)
deriving DecidableEq, Repr

def Notice.message : Notice → String
  | .skipped r => r.message
  | .bookmarks n => n.message
  | .demoKeyMissing key => s!"Demo bookmark {Text.quoted key} not in catalog, skipping"

/-- Why an activity has no value. -/
inductive Failure where
  | noStorage
  | noCatalog
  | catalog (f : CatalogFault)
  | settings (f : Settings.StoreFault)
  | file (f : FileFault)
  | notSortable
  | noDirectory (directory : Path)
  | noPage (file : Path)
  | pageNotFile (file : Path)
  | notFinite
  | unencodable (f : Text.Utf8.HalvesFault)
deriving DecidableEq, Repr

/-- What is wrong, in words; a value of the wrong shape has none. -/
def Failure.message? : Failure → Option String
  | .noStorage => some "Call init_storage() before using storage"
  | .noCatalog => some "Call init_catalog() before using the catalog"
  | .catalog f => some f.message
  | .settings (.document f) => some f.message
  | .settings (.file f) => some f.message
  | .settings (.settings _) => none
  | .file f => some f.message
  | .notSortable => none
  | .noDirectory directory => some s!"Directory '{directory.text}' does not exist"
  | .noPage page => some s!"File at path {page.text} does not exist."
  | .pageNotFile page => some s!"File at path {page.text} is not a file."
  | .notFinite => some "Out of range float values are not JSON compliant"
  | .unencodable f => some f.message

structure Outcome (α : Type) where
  value : Except Failure α
  session : Session
  notices : List Notice

/-- What can be done in a session. -/
def Activity (α : Type) := Session → Outcome α

namespace Activity

variable {α β : Type}

/-- Does nothing and gives a value. -/
def give (a : α) : Activity α := fun s => ⟨.ok a, s, []⟩

/-- One activity, and then another that depends on its value, unless the first fails. -/
def andThen (x : Activity α) (next : α → Activity β) : Activity β := fun s =>
  match x s with
  | ⟨.ok a, s', notices⟩ =>
    let out := next a s'
    ⟨out.value, out.session, notices ++ out.notices⟩
  | ⟨.error f, s', notices⟩ => ⟨.error f, s', notices⟩

instance : Monad Activity where
  pure := give
  bind := andThen

def fail (f : Failure) : Activity α := fun s => ⟨.error f, s, []⟩

def tell (n : Notice) : Activity Unit := fun s => ⟨.ok (), s, [n]⟩

def tellAll (ns : List Notice) : Activity Unit := fun s => ⟨.ok (), s, ns⟩

/-- The session at hand. -/
def session : Activity Session := fun s => ⟨.ok s, s, []⟩

def setTree (t : Tree) : Activity Unit := fun s => ⟨.ok (), { s with tree := t }, []⟩

end Activity

/-- Where a catalog comes from: the compendium itself, or a directory of records. -/
inductive CatalogSource where
  | bundled
  | directory (p : Path)
deriving DecidableEq, Repr

/-- The directory that the records are read from. -/
def CatalogSource.place : CatalogSource → Path
  | .bundled => .ofString "presets/catalog"
  | .directory p => p

namespace Session

/-! ## What is in use -/

def dataDirectory : Activity Path := do
  match (← Activity.session).storage with
  | some directory => return directory
  | none => Activity.fail .noStorage

def currentCatalog : Activity Catalog := do
  match (← Activity.session).catalog with
  | some catalog => return catalog
  | none => Activity.fail .noCatalog

/-- Takes a data directory into use, and then makes it if it does not exist. -/
def useStorage (directory : Path) : Activity Unit := fun s =>
  let (tree, fault) := s.tree.makeDirectories directory
  let value := match fault with
    | none => .ok ()
    | some f => .error (.file f)
  ⟨value, { s with tree, storage := some directory }, []⟩

/-- The records of a directory, with notices about those that are skipped. -/
def readCatalog (directory : Path) : Activity Catalog := do
  match Catalog.readCollections (← Activity.session).tree directory with
  | .error f => Activity.fail (.catalog f)
  | .ok c =>
    Activity.tellAll ((Catalog.skipped c).map .skipped)
    return Catalog.ofCollections c

def useCatalog (source : CatalogSource) : Activity Catalog := do
  let catalog ← readCatalog source.place
  fun s => ⟨.ok catalog, { s with catalog := some catalog }, []⟩

end Session

end Compendium
