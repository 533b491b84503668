import Compendium.Search
import Compendium.Session.Store
import Compendium.Statblock.Basic

/-!
# Tools

What a program that uses the compendium as a tool can ask of it: a search, and an entry with its
statblock.
-/

namespace Compendium.Tools

def summary (e : Entry) : Json :=
  .obj [("key", .str e.key), ("kind", .str e.kind.label), ("name", .str e.name),
    ("source", Json.ofText? e.source)]

/-- The entries of a category that a search text lets through. -/
def searchCatalog (category text : String) : Activity (List Json) := do
  let catalog ← Session.currentCatalog
  let b ← Session.loadBookmarks
  return (catalog.search b.names category text).map summary

/-- The entry with that key, or that there is none. -/
def getEntry (key : String) : Activity (List (Text × Json)) := do
  match (← Session.currentCatalog).find? key with
  | none => return [("key", .str key), ("found", .bool false)]
  | some e =>
    let found : List (Text × Json) :=
      [("key", .str key), ("found", .bool true), ("statblock", .str (Statblock.text e))]
    return e.presentFields ++ found

end Compendium.Tools
