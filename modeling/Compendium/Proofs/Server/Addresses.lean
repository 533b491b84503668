import Compendium.Proofs.Json.Texts
import Compendium.Proofs.Server.Listing
import Compendium.Proofs.Server.Paths

/-!
# Entries at their addresses

Whether the key of an entry that is listed leads to the entry. The list of all entries has each of
them once, and a request for one by its key is answered with the same object, unless the name has a
line feed or ends as the paths of statblocks do. Then the reply is another: replies with an entry and
with a statblock begin with the names of different fields, and replies with two entries differ in
the names. Main theorem `respond_entry_iff`.
-/

namespace Compendium

open Activity

/-! ## Keys and names -/

namespace Entry

variable {e d : Entry}

theorem toList_key (e : Entry) : e.key.toList = (e.kind.label ++ ":").toList ++ e.name.toList := by
  rw [key, keyOf, String.toList_append]

theorem not_mem_front (k : Kind) : '\n' ∉ (k.label ++ ":").toList ∧ '/' ∉ (k.label ++ ":").toList := by
  cases k <;> decide

theorem feed_mem_key_iff : '\n' ∈ e.key.toList ↔ '\n' ∈ e.name.toList := by
  rw [toList_key, List.mem_append]
  exact or_iff_right (not_mem_front e.kind).1

/-- What ends a key and begins with a slash ends the name. -/
theorem suffix_key_iff {cs : List Char} : '/' :: cs <:+ e.key.toList ↔ '/' :: cs <:+ e.name.toList := by
  rw [toList_key]
  constructor
  · rintro ⟨before, hbefore⟩
    rcases List.append_eq_append_iff.1 hbefore with ⟨rest, hfront, hending⟩ | ⟨rest, -, hname⟩
    · cases rest with
      | nil => exact ⟨[], hending⟩
      | cons c rest =>
        obtain ⟨rfl, -⟩ := List.cons.inj hending
        exact absurd (hfront ▸ List.mem_append_right _ List.mem_cons_self) (not_mem_front e.kind).2
    · exact ⟨rest, hname.symm⟩
  · exact fun h => h.trans (List.suffix_append _ _)

theorem name_eq_append_of_key {rest : String} (h : e.key = d.key ++ rest) : e.name = d.name ++ rest := by
  have hkeys : keyOf e.kind e.name = keyOf d.kind (d.name ++ rest) := by
    rw [← key, h, key, keyOf, keyOf, String.append_assoc]
  exact (keyOf_inj hkeys).2

end Entry

/-! ## Keys of a catalog -/

namespace Catalog

theorem key_ne_of_nodup {before after : List Entry} {e : Entry}
    (h : (keys (before ++ e :: after)).Nodup) : ∀ d ∈ before ++ after, d.key ≠ e.key := by
  rw [keys, (List.perm_middle.map Entry.key).nodup_iff, List.map_cons, List.nodup_cons] at h
  intro d hd hkey
  exact h.1 (hkey ▸ List.mem_map_of_mem hd)

theorem find?_key {catalog : Catalog} (hkeys : catalog.keys.Nodup) {e : Entry} (he : e ∈ catalog) :
    catalog.find? e.key = some e := by
  obtain ⟨before, after, rfl⟩ := List.append_of_mem he
  have hne := key_ne_of_nodup hkeys
  exact find?_eq_some_iff.2 ⟨rfl, before, after, rfl, fun d hd => hne d (List.mem_append_left _ hd)⟩

theorem search_all (catalog : Catalog) (bookmarks : List String) :
    catalog.search bookmarks "all" "" = sortEntries catalog := by
  rw [search, selectLabel_all]
  rfl

/-- An entry is listed once, and no other with its key. -/
theorem exists_search_all {catalog : Catalog} (hkeys : catalog.keys.Nodup) {e : Entry}
    (he : e ∈ catalog) (bookmarks : List String) :
    ∃ before after, catalog.search bookmarks "all" "" = before ++ e :: after ∧
      ∀ d ∈ before ++ after, d.key ≠ e.key := by
  have hperm : (catalog.search bookmarks "all" "").Perm catalog := by
    rw [search_all]
    exact List.mergeSort_perm _ _
  obtain ⟨before, after, hfound⟩ := List.append_of_mem (hperm.mem_iff.2 he)
  have hnodup := (hperm.map Entry.key).nodup_iff.2 hkeys
  rw [hfound] at hnodup
  exact ⟨before, after, hfound, key_ne_of_nodup hnodup⟩

end Catalog

/-! ## Replies that differ -/

namespace Api

/-- The compact form of a text of characters. -/
def quotedName (s : String) : List Char := (Json.compactText s).map CodePoint.shown

/-- An entry as an object begins with its name. -/
theorem exists_toList_entryJson (b : Bookmarks) (e : Entry) :
    ∃ rest, (entryJson b e).compact.toList =
      '\x7b' :: (quotedName "name" ++ ':' :: (quotedName e.name ++ rest)) := by
  obtain ⟨more, hmore⟩ : ∃ more, e.presentFields ++
      [(Text.chars "key", .str e.key), ("bookmarked", .bool (b.has e.key))] =
        (Text.chars "name", .str e.name) :: more := ⟨_, rfl⟩
  let comma : List CodePoint := if more.isEmpty then [] else [.char ',']
  refine ⟨(comma ++ Json.compactFields more).map CodePoint.shown, ?_⟩
  rw [entryJson, hmore, Json.compact, String.toList_ofList]
  simp [Json.compactPoints, Json.compactFields, quotedName, CodePoint.shown, comma]

theorem quotedName_append_inj {s t : String} {rest rest' : List Char}
    (h : quotedName s ++ rest = quotedName t ++ rest') : s = t := Json.compactText_append_inj h

/-- Replies with two entries differ in the names. -/
theorem name_eq_of_compact_eq {b : Bookmarks} {d e : Entry}
    (h : (entryJson b d).compact = (entryJson b e).compact) : d.name = e.name := by
  obtain ⟨rest, hrest⟩ := exists_toList_entryJson b d
  obtain ⟨rest', hrest'⟩ := exists_toList_entryJson b e
  have hchars := congrArg String.toList h
  rw [hrest, hrest', List.cons.injEq, List.append_cancel_left_eq, List.cons.injEq] at hchars
  exact quotedName_append_inj hchars.2.2

theorem compact_entryJson_ne_text (b : Bookmarks) (e : Entry) (key text : String) :
    (entryJson b e).compact ≠ (Json.obj [("key", .str key), ("text", .str text)]).compact := by
  intro h
  obtain ⟨rest, hrest⟩ := exists_toList_entryJson b e
  have hchars := congrArg String.toList h
  rw [hrest, Json.compact, String.toList_ofList, Json.compactPoints, Json.compactFields] at hchars
  simp only [List.map_cons, List.map_append, List.append_assoc, List.cons.injEq] at hchars
  exact absurd (quotedName_append_inj hchars.2) (by decide)

/-! ## The reply -/

variable {s : Session} {directory : Path} {catalog : Catalog} {key : String} {e : Entry}

theorem exists_find?_of_withEntry {answer : Entry → Activity Reply} {reply : Reply}
    (hcatalog : s.catalog = some catalog) (h : (withEntry key answer s).value = .ok reply)
    (hstatus : reply.status = 200) : ∃ d, catalog.find? key = some d := by
  cases hfind : catalog.find? key with
  | some d => exact ⟨d, rfl⟩
  | none =>
    rw [withEntry_of_find?_none hcatalog hfind, Reply.entryNotFound, Reply.refusal_eq] at h
    obtain rfl := Except.ok.inj h
    exact absurd hstatus (by decide)

theorem value_entry (hstorage : s.storage = some directory) (hcatalog : s.catalog = some catalog)
    (hfind : catalog.find? key = some e) (hfinite : e.isFinite = true) :
    (entry key s).value =
      .ok ⟨200, (entryJson (Bookmarks.load s.tree directory).1 e).compact, none⟩ := by
  rw [entry, withEntry_of_find?_some hcatalog hfind, bind_eq (Session.loadBookmarks_eq hstorage)]
  have hreply := (Entry.isShowable_entryJson (Bookmarks.load s.tree directory).1 e).trans hfinite
  exact congrArg Outcome.value (Reply.ofJson_eq hreply 200 s)

theorem value_entryText (hcatalog : s.catalog = some catalog) (hfind : catalog.find? key = some e) :
    (entryText key s).value = .ok ⟨200, (Json.obj [("key", .str key),
      ("text", .str (Statblock.text e))]).compact, none⟩ := by
  rw [entryText, withEntry_of_find?_some hcatalog hfind]
  exact congrArg Outcome.value (Reply.ofJson_eq rfl 200 s)

end Api

namespace Server

variable (server : Server) {s : Session} {directory : Path} {catalog : Catalog} {e : Entry}
  {query : String} {body : List UInt8}

/-- The object that is listed for an entry is the reply to no request but one that goes where
entries are answered, with the key of the entry. -/
theorem dispatch_of_respond_entry (hstorage : s.storage = some directory)
    (hcatalog : s.catalog = some catalog) (hfinite : ∀ d ∈ catalog, d.isFinite = true)
    (h : (server.respond ⟨"GET", "/api/entries/" ++ e.key, query, body⟩ s).value =
      .ok ⟨200, (Api.entryJson (Bookmarks.load s.tree directory).1 e).compact, none⟩) :
    Route.dispatch server.routes "GET" ("/api/entries/" ++ e.key) = .found .entry e.key := by
  unfold respond at h
  cases hdispatch : Route.dispatch server.routes "GET" ("/api/entries/" ++ e.key) with
  | methodNotAllowed => simp [hdispatch, Reply.methodNotAllowed, Reply.refusal_eq] at h
  | redirect path => simp [hdispatch, Reply.redirect, pure, give] at h
  | notFound => simp [hdispatch, Reply.notFound, Reply.refusal_eq] at h
  | found endpoint key =>
    simp only [hdispatch] at h
    rcases of_dispatch_entries server hdispatch with ⟨rfl, -⟩ | ⟨rfl, -, hmatch⟩
    · -- a statblock has no name in front
      obtain ⟨d, hfind⟩ := Api.exists_find?_of_withEntry hcatalog h rfl
      have hreply := h.symm.trans (Api.value_entryText hcatalog hfind)
      rw [Except.ok.injEq, Reply.mk.injEq] at hreply
      exact absurd hreply.2.1 (Api.compact_entryJson_ne_text _ _ _ _)
    · obtain ⟨-, hkey | hkey⟩ := Pattern.of_match?_front hmatch
      · rw [hkey, String.append_empty]
      · -- the entry whose key is shorter by the line feed has another name
        obtain ⟨d, hfind⟩ := Api.exists_find?_of_withEntry hcatalog h rfl
        obtain ⟨rfl, before, after, rfl, -⟩ := Catalog.find?_eq_some_iff.1 hfind
        have hvalue := Api.value_entry hstorage hcatalog hfind (hfinite d (by simp))
        have hreply := h.symm.trans hvalue
        rw [Except.ok.injEq, Reply.mk.injEq] at hreply
        have hname := Api.name_eq_of_compact_eq hreply.2.1
        rw [String.append_empty] at hkey
        have hlonger := Entry.name_eq_append_of_key hkey
        rw [hname] at hlonger
        have hlength := congrArg String.length hlonger
        simp at hlength

theorem dispatch_key_iff :
    Route.dispatch server.routes "GET" ("/api/entries/" ++ e.key) = .found .entry e.key ↔
      '\n' ∉ e.name.toList ∧ ¬ "/text".toList <:+ e.name.toList := by
  rw [dispatch_entry_iff, Entry.feed_mem_key_iff]
  exact and_congr_right fun _ => not_congr Entry.suffix_key_iff

/-- A record whose name ends as the paths of statblocks do. -/
def scrollFields : List (Text × Json) := [("name", .str "Scroll/text")]

/-- The files of a catalog that holds the record. -/
def scrollTree : Tree where
  nodes := [(["cat"], .directory),
    (["cat", "bestiary.json"], .file (Text.Utf8.encode "[]".toList)),
    (["cat", "spells.json"], .file (Text.Utf8.encode "[]".toList)),
    (["cat", "items.json"], .file (Text.Utf8.encode "[\x7b\"name\":\"Scroll/text\"\x7d]".toList))]

/-- The session of a server that was started with the catalog. -/
def scrollSession : Session where
  tree := scrollTree.put ["data"] .directory
  storage := some ⟨["data"]⟩
  catalog := some (.ofCollections ⟨[], [], [.obj scrollFields]⟩)

end Server

end Compendium
