import Compendium.Catalog.Basic
import Compendium.Files.Document

/-!
# Catalogs from files

A catalog directory holds a document for each kind, a list of records. The documents are examined
in catalog order, each to the end before the next, and the first that is missing, unreadable or no
list decides.
-/

namespace Compendium

/-- Why a directory gives no catalog. -/
inductive CatalogFault where
  | missing (file : Path)
  | notList (file : Path)
  | unreadable (f : DocumentFault)
deriving DecidableEq, Repr

def CatalogFault.message : CatalogFault → String
  | .missing file => "Missing catalog collection: " ++ file.text
  | .notList file => "Catalog collection " ++ file.text ++ " is not a JSON array"
  | .unreadable f => f.message

namespace Catalog

def fileName : Kind → String
  | .creature => "bestiary.json"
  | .spell => "spells.json"
  | .item => "items.json"

def readCollection (t : Tree) (directory : Path) (k : Kind) : Except CatalogFault (List Json) :=
  let file := directory.child (fileName k)
  match t.octets? file with
  | none => .error (.missing file)
  | some octets =>
    match Document.ofOctets octets with
    | .error f => .error (.unreadable f)
    | .ok (.arr records) => .ok records
    | .ok _ => .error (.notList file)

def readCollections (t : Tree) (directory : Path) : Except CatalogFault Collections := do
  let creatures ← readCollection t directory .creature
  let spells ← readCollection t directory .spell
  let items ← readCollection t directory .item
  return ⟨creatures, spells, items⟩

end Catalog

end Compendium
