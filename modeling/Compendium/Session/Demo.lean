import Compendium.Session.Store

/-!
# Demo data

Bookmarks and settings to show the compendium with. They take the place of those that are stored;
a demo bookmark that is not in the catalog is left out, with a notice.
-/

namespace Compendium.Session

def demoKeys : List String :=
  ["bestiary:Dire Wolf", "spell:Burning Hands", "spell:Light", "item:Potion of Healing"]

def demoSettings : Json := .obj [("default_category", .str "bookmarks"), ("show_source", .bool true)]

/-- The key is that of an entry. -/
def isListed (catalog : Catalog) (key : String) : Bool := (catalog.find? key).isSome

def seedDemo : Activity Unit := do
  let catalog ← currentCatalog
  Activity.tellAll ((demoKeys.filter fun k => !isListed catalog k).map .demoKeyMissing)
  saveBookmarks (Bookmarks.ofList ((demoKeys.filter (isListed catalog)).map .chars))
  removeSettings
  let _ ← updateSettings demoSettings

end Compendium.Session
