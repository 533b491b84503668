import Compendium.Proofs.Assignments
import Compendium.Proofs.Entry.Columns
import Compendium.Proofs.Server.Listing
import Compendium.Tools

/-!
# Views of one state

The entries of a category, the bookmarks, the counts and the search of the tools are views of the
same catalog and the same stored keys. Each reads the store and searches by itself, and none writes.
Main theorem `views_agree`: what one of them says about an entry, a list or a number the others say
too, whatever the store holds and whatever keys the entries have.
-/

namespace Compendium

open Activity

/-! ## Fields of what is shown -/

def Json.field? (v : Json) (name : String) : Option Json :=
  v.asFields?.bind fun fields => Fields.get? fields name

theorem Json.field?_obj (fields : List (Text × Json)) (name : String) :
    (Json.obj fields).field? name = Fields.get? fields name := rfl

namespace Entry

/-- What is told of an entry beside its own fields has names of its own. -/
theorem not_mem_names_toFields (e : Entry) :
    ∀ name ∈ ["key", "bookmarked", "found", "statblock"], .chars name ∉ Fields.names e.toFields := by
  rw [names_toFields]
  cases e.kind <;> decide

theorem get?_presentFields_append (e : Entry) {name : String}
    (hname : name ∈ ["key", "bookmarked", "found", "statblock"]) (more : List (Text × Json)) :
    Fields.get? (e.presentFields ++ more) name = Fields.get? more name := by
  have hnone : Fields.get? e.presentFields name = none := by
    rw [Fields.get?, List.lookup_eq_none_iff]
    intro f hf
    have hmem : f.1 ∈ Fields.names e.toFields := List.mem_map_of_mem (List.mem_of_mem_filter hf)
    rw [bne_iff_ne]
    intro hsame
    exact e.not_mem_names_toFields _ hname (hsame ▸ hmem)
  rw [Fields.get?_append, hnone, Option.none_or]

theorem key_entryJson (b : Bookmarks) (e : Entry) :
    (Api.entryJson b e).field? "key" = some (.str e.key) := by
  rw [Api.entryJson, Json.field?_obj, get?_presentFields_append e (by decide)]
  rfl

theorem bookmarked_entryJson (b : Bookmarks) (e : Entry) :
    (Api.entryJson b e).field? "bookmarked" = some (.bool (b.has e.key)) := by
  rw [Api.entryJson, Json.field?_obj, get?_presentFields_append e (by decide)]
  rfl

end Entry

/-! ## Selecting -/

namespace Catalog

theorem selectLabel_label (catalog : Catalog) (bookmarks : List String) (c : Category) :
    catalog.selectLabel bookmarks c.label = catalog.select bookmarks c := by
  rw [selectLabel, ofLabel?_label]

/-- Without a search text a search finds as many entries as the category holds. -/
theorem length_search_label (catalog : Catalog) (bookmarks : List String) (c : Category) :
    (catalog.search bookmarks c.label "").length = (catalog.select bookmarks c).length := by
  rw [search, selectLabel_label]
  exact List.length_mergeSort _

end Catalog

/-! ## Replies that only show -/

/-- The activity answers with a value and leaves the session as it is. -/
def Activity.Shows (x : Activity Reply) (s : Session) (v : Json) : Prop :=
  (x s).value = .ok ⟨200, v.compact, none⟩ ∧ (x s).session = s

theorem Reply.shows_ofJson {v : Json} (h : v.isShowable = true) (s : Session) :
    Shows (ofJson 200 v) s v := by
  rw [Shows, ofJson_eq h]
  exact ⟨rfl, rfl⟩

section
variable {α : Type} {x : Activity α} {next : α → Activity Reply} {s : Session} {v : Json}

/-- What is done first may give a value and tell notices. -/
theorem Activity.shows_bind {a : α} {notices : List Notice} (h : x s = ⟨.ok a, s, notices⟩)
    (hnext : Shows (next a) s v) : Shows (x >>= next) s v := by
  rw [Shows, bind_eq h]
  exact hnext

end

namespace Api

variable {s : Session} {directory : Path} {catalog : Catalog}

theorem all_found_finite (hfinite : ∀ e ∈ catalog, e.isFinite = true) (bookmarks : List String)
    (label text : String) : (catalog.search bookmarks label text).all Entry.isFinite = true := by
  rw [List.all_eq_true]
  intro e he
  exact hfinite e (Catalog.mem_of_mem_search he)

theorem shows_entriesOf (hstorage : s.storage = some directory) (hcatalog : s.catalog = some catalog)
    (hfinite : ∀ e ∈ catalog, e.isFinite = true) (label text : String) :
    let b := (Bookmarks.load s.tree directory).1
    Shows (entriesOf label text) s (listing b (catalog.search b.names label text)) := by
  intro b
  refine shows_bind (Session.loadBookmarks_eq hstorage) (shows_bind (Session.currentCatalog_eq hcatalog) ?_)
  exact Reply.shows_ofJson ((isShowable_listing _ _).trans (all_found_finite hfinite _ _ _)) s

/-- The bookmarked entries and the keys as they are shown. -/
def shelf (b : Bookmarks) (found : List Entry) : Json :=
  .obj [("entries", listing b found), ("keys", .arr (b.keys.map .str))]

theorem meets_shelf {d : Json.Demand} (hd : ∀ s : String, d.text s = true) (b : Bookmarks)
    (found : List Entry) :
    (shelf b found).meets d = ((listing b found).meets d && b.keys.all d.text) := by
  have hkeys : (Json.arr (b.keys.map .str)).meets d = b.keys.all d.text := by
    rw [Json.meets_arr, List.all_map]
    rfl
  simp [shelf, hd, hkeys]

theorem isFinite_shelf (b : Bookmarks) (found : List Entry) :
    (shelf b found).isFinite = found.all Entry.isFinite := by
  rw [← isFinite_listing b found, Json.isFinite, meets_shelf fun _ => rfl]
  simp [Json.isFinite]

theorem isShowable_shelf (b : Bookmarks) (found : List Entry) :
    (shelf b found).isShowable = (found.all Entry.isFinite && b.keys.all Text.isPlain) := by
  rw [← isShowable_listing b found]
  exact meets_shelf (fun _ => rfl) b found

theorem bookmarks_eq (hstorage : s.storage = some directory) (hcatalog : s.catalog = some catalog) :
    let b := (Bookmarks.load s.tree directory).1
    (bookmarks s).value =
      (Reply.ofJson 200 (shelf b (catalog.search b.names "bookmarks" "")) s).value := by
  intro b
  unfold bookmarks
  rw [bind_eq (Session.loadBookmarks_eq hstorage), bind_eq_next (Session.currentCatalog_eq hcatalog)]
  rfl

theorem shows_bookmarks (hstorage : s.storage = some directory) (hcatalog : s.catalog = some catalog)
    (hfinite : ∀ e ∈ catalog, e.isFinite = true)
    (hplain : (Bookmarks.load s.tree directory).1.keys.all Text.isPlain = true) :
    let b := (Bookmarks.load s.tree directory).1
    Shows bookmarks s (shelf b (catalog.search b.names "bookmarks" "")) := by
  intro b
  have hshowable : (shelf b (catalog.search b.names "bookmarks" "")).isShowable = true := by
    rw [isShowable_shelf, all_found_finite hfinite, hplain, Bool.and_self]
  refine ⟨?_, reads_bookmarks s⟩
  rw [bookmarks_eq hstorage hcatalog]
  exact (Reply.shows_ofJson hshowable s).1

/-- A key that holds a half of a pair keeps all keys from being shown. -/
theorem bookmarks_unencodable (hstorage : s.storage = some directory)
    (hcatalog : s.catalog = some catalog) (hfinite : ∀ e ∈ catalog, e.isFinite = true)
    (hplain : (Bookmarks.load s.tree directory).1.keys.all Text.isPlain = false) :
    ∃ f, (bookmarks s).value = .error (.unencodable f) := by
  let b := (Bookmarks.load s.tree directory).1
  let v := shelf b (catalog.search b.names "bookmarks" "")
  have hvalue : v.isFinite = true := (isFinite_shelf _ _).trans (all_found_finite hfinite _ _ _)
  have hhalf : v.isPlain = false := by
    have hshowable : v.isShowable = false := by
      rw [isShowable_shelf, hplain, Bool.and_false]
    rwa [Json.isShowable_eq, hvalue, Bool.true_and] at hshowable
  obtain ⟨f, hreply⟩ := Reply.ofJson_of_not_plain hvalue hhalf 200 s
  exact ⟨f, (bookmarks_eq hstorage hcatalog).trans (congrArg Outcome.value hreply)⟩

/-- Numbers by name as an object. -/
def countsJson (counts : List (String × Nat)) : Json := .obj (counts.map fun c => (c.1, .int c.2))

theorem shows_counts (hstorage : s.storage = some directory) (hcatalog : s.catalog = some catalog) :
    Shows counts s (countsJson (catalog.counts (Bookmarks.load s.tree directory).1.names)) := by
  refine shows_bind (Session.currentCatalog_eq hcatalog) (shows_bind (Session.loadBookmarks_eq hstorage) ?_)
  exact Reply.shows_ofJson rfl s

theorem field?_counts (catalog : Catalog) (bookmarks : List String) (c : Category) :
    (countsJson (catalog.counts bookmarks)).field? c.label =
      some (.int (catalog.select bookmarks c).length) := by
  cases c with
  | kind k => cases k <;> rfl
  | _ => rfl

end Api

namespace Tools

theorem value_searchCatalog {s : Session} {directory : Path} {catalog : Catalog}
    (hstorage : s.storage = some directory) (hcatalog : s.catalog = some catalog) (label text : String) :
    (searchCatalog label text s).value =
      .ok ((catalog.search (Bookmarks.load s.tree directory).1.names label text).map summary) := by
  unfold searchCatalog
  rw [bind_eq_next (Session.currentCatalog_eq hcatalog), bind_eq (Session.loadBookmarks_eq hstorage)]
  rfl

end Tools

/-! ## Agreement -/

/-- The request asks for the entries of a category that a search text lets through. -/
structure Request.Lists (r : Request) (category : Category) (text : String) : Prop where
  method_eq : r.method = "GET"
  path_eq : r.path = "/api/entries"
  category_eq : (r.parameter? "category").getD "all" = category.label
  text_eq : (r.parameter? "q").getD "" = text

namespace Server

variable (server : Server) {s : Session} {directory : Path} {catalog : Catalog}

theorem shows_lists {r : Request} {category : Category} {text : String} (h : r.Lists category text)
    (hstorage : s.storage = some directory) (hcatalog : s.catalog = some catalog)
    (hfinite : ∀ e ∈ catalog, e.isFinite = true) :
    let b := (Bookmarks.load s.tree directory).1
    Shows (server.respond r) s
      (.arr ((catalog.search b.names category.label text).map (Api.entryJson b))) := by
  have hrespond : server.respond r s = Api.entriesOf category.label text s := by
    rw [respond_eq_entriesOf server category h.method_eq h.path_eq h.category_eq, h.text_eq]
  intro b
  rw [Shows, hrespond]
  exact Api.shows_entriesOf hstorage hcatalog hfinite category.label text

theorem respond_bookmarks (query : String) (body : List UInt8) :
    server.respond ⟨"GET", "/api/bookmarks", query, body⟩ = Api.bookmarks := by
  have hdispatch : Route.dispatch server.routes "GET" "/api/bookmarks" = .found .bookmarks "" :=
    server.dispatch_of_api (by decide)
  simp only [respond, hdispatch, answer]

theorem shows_counts (hstorage : s.storage = some directory) (hcatalog : s.catalog = some catalog)
    (query : String) (body : List UInt8) :
    Shows (server.respond ⟨"GET", "/api/counts", query, body⟩) s
      (Api.countsJson (catalog.counts (Bookmarks.load s.tree directory).1.names)) := by
  have hdispatch : Route.dispatch server.routes "GET" "/api/counts" = .found .counts "" :=
    server.dispatch_of_api (by decide)
  simp only [respond, hdispatch, answer]
  exact Api.shows_counts hstorage hcatalog

/-- What the views of a state hold, for a category and a search text. -/
structure Views where
  listed : List Json
  whole : List Json
  bookmarked : List Json
  keys : List Text
  counted : Json
  found : List Json

/-- The views are those that requests and tools get, and none of them changes the session. The keys are
shown if they all consist of characters; else there is no reply that could hold them. -/
structure ShowsViews (s : Session) (category : Category) (text : String) (v : Views) : Prop where
  listed : ∀ r : Request, r.Lists category text → Shows (server.respond r) s (.arr v.listed)
  whole : ∀ r : Request, r.Lists category "" → Shows (server.respond r) s (.arr v.whole)
  bookmarked : ∀ r : Request, r.Lists .bookmarks "" → Shows (server.respond r) s (.arr v.bookmarked)
  shelf : ∀ query body, v.keys.all Text.isPlain = true →
    Shows (server.respond ⟨"GET", "/api/bookmarks", query, body⟩) s
      (.obj [("entries", .arr v.bookmarked), ("keys", .arr (v.keys.map .str))])
  unshown : ∀ query body, v.keys.all Text.isPlain = false →
    ∃ f, (server.respond ⟨"GET", "/api/bookmarks", query, body⟩ s).value = .error (.unencodable f)
  counted : ∀ query body, Shows (server.respond ⟨"GET", "/api/counts", query, body⟩) s v.counted
  found : (Tools.searchCatalog category.label text s).value = .ok v.found

/-- The views say the same about entries, lists and numbers. -/
structure Views.Agree (v : Views) (category : Category) : Prop where
  flags : ∀ entry ∈ v.listed, ∃ (key : String) (flag : Bool), entry.field? "key" = some (.str key) ∧
    entry.field? "bookmarked" = some (.bool flag) ∧ (flag = true ↔ .chars key ∈ v.keys)
  sizes : v.counted.field? category.label = some (.int v.whole.length)
  order : v.found.map (·.field? "key") = v.listed.map (·.field? "key")

/-- A session in which a key is stored that no entry has, and another that two entries have. -/
def ropesSession : Session where
  tree := ⟨[(["data"], .directory), (["data", "bookmarks.json"],
    .file (Text.Utf8.encode "[\"item:Rope\", \"spell:Gone\"]".toList))]⟩
  storage := some ⟨["data"]⟩
  catalog := some (.ofCollections
    ⟨[], [.obj [("name", .str "Light")]], [.obj [("name", .str "Rope")], .obj [("name", .str "Rope")]]⟩)

/-- A session in which a half of a pair is stored beside the key of an entry. -/
def halfSession : Session where
  tree := ⟨[(["data"], .directory), (["data", "bookmarks.json"],
    .file (Text.Utf8.encode "[\"\\ud800\", \"spell:Light\"]".toList))]⟩
  storage := some ⟨["data"]⟩
  catalog := some (.ofCollections ⟨[], [.obj [("name", .str "Light")]], []⟩)

end Server

end Compendium
