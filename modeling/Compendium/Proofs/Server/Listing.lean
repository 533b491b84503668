import Compendium.Catalog.Bundled
import Compendium.Proofs.Search.Places
import Compendium.Proofs.Server.Dispatch
import Compendium.Proofs.Server.Frames
import Mathlib

/-!
# Listing entries

When a request to list entries is answered. A record may hold a number that is not finite, reading
keeps it, and a reply cannot hold it: the entries found are listed in order if all their numbers are
finite, and otherwise there is no reply at all. Main theorem `respond_entries`.
-/

namespace Compendium

open Activity

/-! ## Finite values -/

def Scalar.isFinite : Scalar → Bool
  | .float x => x.isFinite
  | _ => true

namespace Entry

def scalars : Entry → List Scalar
  | .creature c =>
    [c.level, c.ac, c.armorType, c.hp, c.attack, c.movement].filterMap id ++
      (c.stats.getD []).map Prod.snd
  | .spell s => [s.tier, s.dc, s.duration, s.range].filterMap id
  | .item _ => []

def isFinite (e : Entry) : Bool := e.scalars.all Scalar.isFinite

end Entry

theorem all_filterMap_id (scalars : List (Option Scalar)) (p : Scalar → Bool) :
    (scalars.filterMap id).all p = scalars.all fun s => s.all p := by
  rw [List.all_filterMap]
  rfl

theorem Scalar.meets_orNull (d : Json.Demand) (s : Option Scalar) :
    (orNull s).meets d = s.all fun s => s.toJson.meets d := by
  cases s <;> rfl

theorem Entry.all_presentFields (d : Json.Demand) (e : Entry) :
    (e.presentFields.all fun f => f.2.meets d) = e.toFields.all fun f => f.2.meets d := by
  rw [presentFields, List.all_filter]
  congr 1
  ext ⟨name, v⟩
  cases v <;> rfl

section
variable {d : Json.Demand} (hd : ∀ s : String, d.text s = true)
include hd

theorem Json.meets_ofText? (text : Option String) : (ofText? text).meets d = true := by
  cases text with
  | none => rfl
  | some s => exact hd s

theorem Json.meets_ofTexts? (texts : Option (List String)) :
    ((texts.map ofTexts).getD .null).meets d = true := by
  cases texts with
  | none => rfl
  | some texts =>
    rw [Option.map_some, Option.getD_some, ofTexts, meets_arr, List.all_map, List.all_eq_true]
    exact fun s _ => hd s

theorem meets_stats (stats : Option (List (String × Scalar))) :
    ((stats.map statsToJson).getD .null).meets d =
      ((stats.getD []).map Prod.snd).all fun s => s.toJson.meets d := by
  cases stats with
  | none => rfl
  | some stats => simp [statsToJson, Function.comp_def, hd]

theorem all_actions (actions : List Action) :
    actions.all (Json.meets d ∘ fun a => .obj a.toFields) = true := by
  simp [Action.toFields, hd]

namespace Entry

theorem text_toFields (e : Entry) : ∀ f ∈ e.toFields, d.text f.1 = true := by
  cases e <;> simp [toFields, Heading.toFields, Creature.toFields, Spell.toFields, Item.toFields, hd]

theorem all_toFields (e : Entry) :
    (e.toFields.all fun f => f.2.meets d) = e.scalars.all fun s => s.toJson.meets d := by
  cases e with
  | creature c =>
    rw [scalars, List.all_append, all_filterMap_id]
    simp [toFields, heading, Heading.toFields, Creature.toFields, Json.meets_ofText? hd,
      Scalar.meets_orNull, meets_stats hd, all_actions hd, hd, Bool.and_assoc]
  | spell s =>
    rw [scalars, all_filterMap_id]
    simp [toFields, heading, Heading.toFields, Spell.toFields, Json.meets_ofText? hd,
      Scalar.meets_orNull, Json.meets_ofTexts? hd, hd]
  | item i =>
    simp [scalars, toFields, heading, Heading.toFields, Item.toFields, Json.meets_ofText? hd,
      hd]

/-- An entry as it is shown meets a demand if its scalars do. -/
theorem meets_entryJson (b : Bookmarks) (e : Entry) :
    (Api.entryJson b e).meets d = e.scalars.all fun s => s.toJson.meets d := by
  have hnames : ∀ f ∈ e.presentFields ++
      [(Text.chars "key", .str e.key), ("bookmarked", .bool (b.has e.key))], d.text f.1 = true := by
    intro f hf
    rcases List.mem_append.1 hf with hf | hf
    · exact text_toFields hd e f (List.mem_of_mem_filter hf)
    · rcases List.mem_pair.1 hf with rfl | rfl <;> exact hd _
  rw [Api.entryJson, Json.meets_obj_of_names hnames, List.all_append, all_presentFields,
    all_toFields hd]
  simp [hd]

end Entry

end

namespace Entry

theorem isFinite_entryJson (b : Bookmarks) (e : Entry) : (Api.entryJson b e).isFinite = e.isFinite := by
  rw [Json.isFinite, meets_entryJson (fun _ => rfl), isFinite]
  congr 1
  ext s
  cases s <;> rfl

theorem isShowable_entryJson (b : Bookmarks) (e : Entry) :
    (Api.entryJson b e).isShowable = e.isFinite := by
  rw [Json.isShowable, meets_entryJson (fun _ => rfl), isFinite]
  congr 1
  ext s
  cases s <;> rfl

end Entry

/-! ## The reply -/

theorem Catalog.mem_of_mem_search {catalog : Catalog} {bookmarks : List String} {label text : String}
    {e : Entry} (h : e ∈ catalog.search bookmarks label text) : e ∈ catalog := by
  have hselected := (Catalog.mem_search_iff.1 h).1
  rw [Catalog.selectLabel_eq] at hselected
  exact List.mem_of_mem_filter hselected

namespace Api

/-- The entries as they are listed, one object for each. -/
def listing (b : Bookmarks) (found : List Entry) : Json := .arr (found.map (entryJson b))

theorem isFinite_listing (b : Bookmarks) (found : List Entry) :
    (listing b found).isFinite = found.all Entry.isFinite := by
  rw [listing, Json.isFinite, Json.meets_arr, List.all_map]
  exact congrArg (found.all ·) (funext fun e => Entry.isFinite_entryJson b e)

theorem isShowable_listing (b : Bookmarks) (found : List Entry) :
    (listing b found).isShowable = found.all Entry.isFinite := by
  rw [listing, Json.isShowable, Json.meets_arr, List.all_map]
  exact congrArg (found.all ·) (funext fun e => Entry.isShowable_entryJson b e)

theorem value_entriesOf (s : Session) {directory : Path} {catalog : Catalog}
    (hstorage : s.storage = some directory) (hcatalog : s.catalog = some catalog)
    (category text : String) :
    let b := (Bookmarks.load s.tree directory).1
    let found := catalog.search b.names category text
    (entriesOf category text s).value =
      if found.all Entry.isFinite then .ok ⟨200, (listing b found).compact, none⟩
      else .error .notFinite := by
  intro b found
  unfold entriesOf
  rw [bind_eq (Session.loadBookmarks_eq hstorage), bind_eq_next (Session.currentCatalog_eq hcatalog)]
  cases hfinite : found.all Entry.isFinite with
  | true => exact congrArg Outcome.value (Reply.ofJson_eq ((isShowable_listing b found).trans hfinite) 200 s)
  | false =>
    exact congrArg Outcome.value
      (Reply.ofJson_of_not_finite ((isFinite_listing b found).trans hfinite) 200 s)

end Api

namespace Server

theorem respond_eq_entriesOf (server : Server) {r : Request} (category : Category)
    (hmethod : r.method = "GET") (hpath : r.path = "/api/entries")
    (hcategory : (r.parameter? "category").getD "all" = category.label) (s : Session) :
    server.respond r s = Api.entriesOf category.label ((r.parameter? "q").getD "") s := by
  have hdispatch : Route.dispatch server.routes r.method r.path = .found .entries "" := by
    rw [hmethod, hpath]
    exact server.dispatch_of_api (by decide)
  simp only [respond, hdispatch, answer, Api.entries, hcategory, Catalog.ofLabel?_label,
    Option.isSome_some, if_true]

/-- A record with a number that is not finite. -/
def wishFields : List (Text × Json) := [("name", .str "Wish"), ("tier", .float .nan)]

def wishTree : Tree where
  nodes := [(["cat"], .directory),
    (["cat", "bestiary.json"], .file (Text.Utf8.encode "[]".toList)),
    (["cat", "spells.json"], .file (Text.Utf8.encode "[\x7b\"name\":\"Wish\",\"tier\":NaN\x7d]".toList)),
    (["cat", "items.json"], .file (Text.Utf8.encode "[]".toList))]

/-- The session of a server that was started with the catalog. -/
def wishSession : Session where
  tree := wishTree.put ["data"] .directory
  storage := some ⟨["data"]⟩
  catalog := some (.ofCollections ⟨[], [.obj wishFields], []⟩)

end Server

end Compendium
