import Compendium.Server.Body
import Compendium.Server.Reply
import Compendium.Server.Request
import Compendium.Session.Store
import Compendium.Statblock.Basic

/-!
# The interface

What each endpoint answers. An entry is an object of the fields it has, with its key and whether it
is bookmarked; every endpoint that shows entries shows them so.
-/

namespace Compendium.Api

def entryJson (b : Bookmarks) (e : Entry) : Json :=
  let shelf : List (Text × Json) := [("key", .str e.key), ("bookmarked", .bool (b.has e.key))]
  .obj (e.presentFields ++ shelf)

def textsJson (fields : List (String × String)) : Json := .obj (fields.map fun f => (f.1, .str f.2))

def health : Activity Reply := Reply.ofJson 200 (.obj [("status", .str "ok")])

/-! ## Entries -/

/-- The entries of a category that a search text lets through. -/
def entriesOf (category text : String) : Activity Reply := do
  let b ← Session.loadBookmarks
  let catalog ← Session.currentCatalog
  Reply.ofJson 200 (.arr ((catalog.search b.names category text).map (entryJson b)))

def categoryComplaint (label : String) : Complaint :=
  ⟨["query", "category"], .category, .str label⟩

def entries (r : Request) : Activity Reply :=
  let category := (r.parameter? "category").getD "all"
  if (Category.ofLabel? category).isSome then entriesOf category ((r.parameter? "q").getD "")
  else Reply.complaints [(categoryComplaint category).toJson]

def counts : Activity Reply := do
  let catalog ← Session.currentCatalog
  let b ← Session.loadBookmarks
  Reply.ofJson 200 (.obj ((catalog.counts b.names).map fun c => (c.1, .int c.2)))

def query (r : Request) : Activity Reply :=
  let q := Query.ofString ((r.parameter? "q").getD "")
  Reply.ofJson 200 (.obj [("filters", textsJson q.filters), ("free_text", .str q.freeText),
    ("recognized", textsJson q.known)])

/-- What there is to say about the entry with that key, if there is one. -/
def withEntry (key : String) (answer : Entry → Activity Reply) : Activity Reply := do
  match (← Session.currentCatalog).find? key with
  | some e => answer e
  | none => Reply.entryNotFound

def entryText (key : String) : Activity Reply :=
  withEntry key fun e =>
    Reply.ofJson 200 (.obj [("key", .str key), ("text", .str (Statblock.text e))])

def entry (key : String) : Activity Reply :=
  withEntry key fun e => do
    let b ← Session.loadBookmarks
    Reply.ofJson 200 (entryJson b e)

/-! ## Bookmarks -/

def bookmarks : Activity Reply := do
  let b ← Session.loadBookmarks
  let catalog ← Session.currentCatalog
  Reply.ofJson 200 (.obj
    [("entries", .arr ((catalog.search b.names "bookmarks" "").map (entryJson b))),
     ("keys", .arr (b.keys.map .str))])

def toggle (key : String) : Activity Reply :=
  withEntry key fun _ => do
    let bookmarked ← Session.toggleBookmark key
    Reply.ofJson 200 (.obj [("key", .str key), ("bookmarked", .bool bookmarked)])

def clear : Activity Reply := do
  Session.clearBookmarks
  Reply.ofJson 200 (.obj [("ok", .bool true)])

/-! ## Settings -/

def settings : Activity Reply := do
  let s ← Session.loadSettings
  Reply.ofJson 200 s.toJson

def bodyComplaint (kind : Json.FaultKind) (offset : Nat) : Json :=
  .obj [("type", .str "json_invalid"), ("loc", .arr [.str "body", .int offset]),
    ("msg", .str "JSON decode error"), ("input", .obj []),
    ("ctx", .obj [("error", .str kind.message)])]

def updateFrom (form : Json) : Activity Reply :=
  match Form.read form with
  | .error cs => Reply.complaints (cs.map Complaint.toJson)
  | .ok fields => do
    let s ← Session.updateSettings fields
    Reply.ofJson 200 s.toJson

def settingsUpdate (r : Request) : Activity Reply :=
  if r.body.isEmpty then Reply.complaints [(Complaint.mk ["body"] .missing .null).toJson]
  else
    match Body.read r.body with
    | .ok form => updateFrom form
    | .error (.malformed kind offset) => Reply.complaints [bodyComplaint kind offset]
    | .error .unreadable => Reply.refusal 400 "There was an error parsing the body"

end Compendium.Api
