import Compendium.Json.Order
import Compendium.Session.Basic

/-!
# The stores of a session

Bookmarks and settings in the data directory in use.
-/

namespace Compendium.Session

/-! ## Bookmarks -/

/-- Tells a notice about the bookmarks, if there is one. -/
def tellBookmarks : Option Bookmarks.Notice → Activity Unit
  | some n => Activity.tell (.bookmarks n)
  | none => Activity.give ()

def loadBookmarks : Activity Bookmarks := do
  let directory ← dataDirectory
  let (b, notice) := Bookmarks.load (← Activity.session).tree directory
  tellBookmarks notice
  return b

def saveBookmarkItems (items : List Json) : Activity Unit := do
  let directory ← dataDirectory
  let (tree, notice) := Bookmarks.saveItems (← Activity.session).tree directory items
  Activity.setTree tree
  tellBookmarks notice

def saveBookmarks (b : Bookmarks) : Activity Unit := saveBookmarkItems (b.keys.map .str)

/-- What a value consists of: the items of a list, the code points of a text, the names of an
object. -/
def membersOf? : Json → Option (List Json)
  | .arr items => some items
  | .str s => some (s.points.map fun p => .str (.ofPoints [p]))
  | .obj fields => some (fields.map fun f => .str f.1)
  | _ => none

/-- Stores what a value consists of as bookmarks, sorted. -/
def saveBookmarksFrom (v : Json) : Activity Unit := do
  let _ ← dataDirectory
  match (membersOf? v).bind Json.sort? with
  | some items => saveBookmarkItems items
  | none => Activity.fail .notSortable

/-- Toggles a bookmark; the value says whether the key is bookmarked now. -/
def toggleBookmark (key : Text) : Activity Bool := do
  let b ← loadBookmarks
  saveBookmarks (b.toggle key)
  return (b.toggle key).has key

def clearBookmarks : Activity Unit := saveBookmarks Bookmarks.empty

/-! ## Settings -/

def loadSettings : Activity Settings := do
  let directory ← dataDirectory
  match Settings.load (← Activity.session).tree directory with
  | .ok s => return s
  | .error f => Activity.fail (.settings f)

def updateSettings (fields : Json) : Activity Settings := do
  let directory ← dataDirectory
  match Settings.update (← Activity.session).tree directory fields with
  | .ok (s, tree) =>
    Activity.setTree tree
    return s
  | .error f => Activity.fail (.settings f)

def removeSettings : Activity Unit := do
  let directory ← dataDirectory
  let tree := (← Activity.session).tree
  if tree.contains (Settings.file directory) then
    match tree.remove (Settings.file directory) with
    | .ok t => Activity.setTree t
    | .error f => Activity.fail (.file f)

end Compendium.Session
