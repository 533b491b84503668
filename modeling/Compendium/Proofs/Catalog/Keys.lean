import Compendium.Proofs.Search.Places
import Compendium.Proofs.Session.Toggling

/-!
# What a key names

No label of a kind has a colon in it, so a key names one kind and one name, whatever colons and
labels stand in the name (`Entry.key_eq_iff`). So the entry that is found under a key is the first of
its kind and name (`find?_eq_some_iff_first`), and a bookmark is one of all the entries of a kind and
name: toggling it takes them into the bookmarked ones or out of them, and leaves all others where they
are (`selectLabel_toggle`). What is stored changes so only where the store can be written: a directory
in its place keeps every entry where it is (`toggle_moves_no_entry`). Main theorem
`keys_name_entries`.
-/

namespace Compendium

namespace Entry

/-- The entries have one kind and one name. -/
def Namesakes (e f : Entry) : Prop := e.kind = f.kind ∧ e.name = f.name

instance (e f : Entry) : Decidable (Namesakes e f) := inferInstanceAs (Decidable (_ ∧ _))

theorem namesakes_iff {e f : Entry} : Namesakes e f ↔ e.key = f.key := (key_eq_iff e f).symm

end Entry

namespace Catalog

open Entry (Namesakes)

/-! ## Finding -/

/-- An entry is found under its own key where no entry of its kind and name stands before it. -/
theorem find?_eq_some_iff_first {catalog : Catalog} {key : String} {e : Entry} :
    catalog.find? key = some e ↔
      key = e.kind.label ++ ":" ++ e.name ∧
        ∃ before after, catalog = before ++ e :: after ∧ ∀ d ∈ before, ¬ Namesakes d e := by
  rw [find?_eq_some_iff]
  constructor
  · rintro ⟨rfl, before, after, hcatalog, hbefore⟩
    exact ⟨rfl, before, after, hcatalog, fun d hd => mt Entry.namesakes_iff.1 (hbefore d hd)⟩
  · rintro ⟨hkey, before, after, hcatalog, hbefore⟩
    have hown : e.key = key := hkey.symm
    subst hown
    exact ⟨rfl, before, after, hcatalog, fun d hd => mt Entry.namesakes_iff.2 (hbefore d hd)⟩

theorem find?_eq_none_iff_unnamed {catalog : Catalog} {key : String} :
    catalog.find? key = none ↔ ∀ d ∈ catalog, key ≠ d.kind.label ++ ":" ++ d.name := by
  rw [find?, List.find?_eq_none]
  simp only [decide_eq_true_eq]
  exact forall₂_congr fun d _ => not_congr eq_comm

/-! ## Bookmarked entries -/

theorem mem_selectLabel_bookmarks {catalog : Catalog} {bookmarks : List String} {d : Entry} :
    d ∈ catalog.selectLabel bookmarks "bookmarks" ↔ d ∈ catalog ∧ d.key ∈ bookmarks := by
  rw [selectLabel_eq, List.mem_filter, inCategory_iff]
  simp [BelongsTo]

/-- Toggling the bookmark of an entry moves the entries of its kind and name, and no others. -/
theorem selectLabel_toggle (catalog : Catalog) (b : Bookmarks) (e : Entry) :
    catalog.selectLabel (b.toggle e.key).names "bookmarks" =
      List.filter (fun d => decide
        (d ∈ catalog.selectLabel b.names "bookmarks" ↔ ¬ Namesakes d e)) catalog := by
  rw [selectLabel_eq]
  refine List.filter_congr fun d hd => ?_
  have hmoved : d.key ∈ (b.toggle e.key).names ↔ (d.key ∈ b.names ↔ ¬ Namesakes d e) := by
    simp only [Bookmarks.mem_names_iff, Bookmarks.mem_toggle_iff, ne_eq, Text.chars.injEq,
      Entry.namesakes_iff]
  have hbelongs :
      BelongsTo (b.toggle e.key).names "bookmarks" d ↔ d.key ∈ (b.toggle e.key).names := by
    simp [BelongsTo]
  have hbefore : d ∈ catalog.selectLabel b.names "bookmarks" ↔ d.key ∈ b.names := by
    rw [mem_selectLabel_bookmarks, and_iff_right hd]
  rw [Bool.eq_iff_iff, inCategory_iff, decide_eq_true_iff, hbelongs, hmoved, hbefore]

/-- **A key names one kind and one name,** whatever the names are. So what is found under a key is the
first entry whose kind and name make it up, and nothing where no entry's do; and toggling the bookmark
of an entry moves just the entries of its kind and name into the bookmarked ones or out of them, each
of them if there are several. That set is what is loaded after the toggle where it can be stored, and
elsewhere what was loaded before it is. -/
theorem keys_name_entries (catalog : Catalog) :
    (∀ e f : Entry, e.key = f.key ↔ e.kind = f.kind ∧ e.name = f.name) ∧
    (∀ key e, catalog.find? key = some e ↔
      key = e.kind.label ++ ":" ++ e.name ∧
        ∃ before after, catalog = before ++ e :: after ∧
          ∀ d ∈ before, ¬ (d.kind = e.kind ∧ d.name = e.name)) ∧
    (∀ key, catalog.find? key = none ↔ ∀ d ∈ catalog, key ≠ d.kind.label ++ ":" ++ d.name) ∧
    (∀ (b : Bookmarks) (e : Entry), catalog.selectLabel (b.toggle e.key).names "bookmarks" =
      List.filter (fun d => decide
        (d ∈ catalog.selectLabel b.names "bookmarks" ↔ ¬ (d.kind = e.kind ∧ d.name = e.name)))
        catalog) ∧
    ∀ (s : Session) (directory : Path) (e : Entry), s.storage = some directory →
      ∃ b after, (Session.loadBookmarks s).value = .ok b ∧
        (Session.toggleBookmark e.key s).value = .ok ((b.toggle e.key).has e.key) ∧
        (Session.loadBookmarks (Session.toggleBookmark e.key s).session).value = .ok after ∧
        (Bookmarks.Writable s.tree directory → after = b.toggle e.key) ∧
        (¬ Bookmarks.Writable s.tree directory → after = b) := by
  refine ⟨Entry.key_eq_iff, fun key e => find?_eq_some_iff_first, fun key => find?_eq_none_iff_unnamed,
    selectLabel_toggle catalog, ?_⟩
  intro s directory e hstorage
  refine ⟨_, _, Session.value_loadBookmarks hstorage, ?_,
    Session.value_loadBookmarks_toggleBookmark hstorage e.key, ?_, ?_⟩
  · rw [Session.value_toggleBookmark hstorage, Bookmarks.has_toggle]
  · intro hwritable
    rw [Bookmarks.load_save_of_writable hwritable]
  · intro hwritable
    rw [Bookmarks.load_save_of_not_writable hwritable]

/-- An item whose name reads as the key of a spell. -/
def lookalike (description : Option String) : Entry :=
  .item ⟨⟨"spell:Light", description, none⟩, none, none, none, none, none⟩

/-- Two items of one such name, and the spell between them. -/
def lookalikes : Catalog :=
  [lookalike none, .spell ⟨⟨"Light", none, none⟩, none, none, none, none, none⟩,
    lookalike (some "A lantern.")]

theorem keys_name_entries_lookalikes :
    let s : Session := ⟨⟨[(["data"], .directory)]⟩, some ⟨["data"]⟩, some lookalikes⟩
    s.storage = some ⟨["data"]⟩ ∧ Bookmarks.Writable s.tree ⟨["data"]⟩ ∧
      lookalikes.find? "item:spell:Light" = some (lookalike none) ∧
      ∃ b, (Session.loadBookmarks (Session.toggleBookmark "item:spell:Light" s).session).value =
          .ok b ∧
        lookalikes.selectLabel b.names "bookmarks" =
          [lookalike none, lookalike (some "A lantern.")] := by
  intro s
  have hwritable : Bookmarks.Writable s.tree ⟨["data"]⟩ := ⟨by decide, by decide⟩
  obtain ⟨-, hfind, -, hmoved, hstored⟩ := keys_name_entries lookalikes
  obtain ⟨b, after, hbefore, -, hafter, htoggled, -⟩ :=
    hstored s ⟨["data"]⟩ (lookalike none) rfl
  obtain rfl := htoggled hwritable
  -- nothing is stored at first
  obtain rfl : Bookmarks.empty = b :=
    Except.ok.inj ((@Session.value_loadBookmarks s ⟨["data"]⟩ rfl).symm.trans hbefore)
  refine ⟨rfl, hwritable, (hfind _ _).2 ⟨rfl, [], _, rfl, by simp⟩, _, hafter, ?_⟩
  rw [hmoved]
  decide +kernel

/-- Where a directory stands in the place of the store, toggling the bookmark of an entry says that it
is bookmarked now, and no entry is. -/
theorem toggle_moves_no_entry :
    let s : Session := ⟨Session.blockedTree, some ⟨["data"]⟩, some lookalikes⟩
    Session.useStorage ⟨["data"]⟩ ⟨Session.blockedTree, none, some lookalikes⟩ = ⟨.ok (), s, []⟩ ∧
      (lookalikes.find? "item:spell:Light") = some (lookalike none) ∧
      (Session.toggleBookmark "item:spell:Light" s).value = .ok true ∧
      ∃ b after, (Session.loadBookmarks s).value = .ok b ∧
        (Session.loadBookmarks (Session.toggleBookmark "item:spell:Light" s).session).value =
          .ok after ∧
        ∀ d, d ∈ lookalikes.selectLabel after.names "bookmarks" ↔
          d ∈ lookalikes.selectLabel b.names "bookmarks" := by
  intro s
  have hblocked : ¬ Bookmarks.Writable s.tree ⟨["data"]⟩ := fun h => h.free rfl
  refine ⟨rfl, by decide +kernel, ?_, _, _, Session.value_loadBookmarks rfl,
    Session.value_loadBookmarks_toggleBookmark rfl _, fun d => ?_⟩
  · rw [Session.value_toggleBookmark rfl]
    rfl
  · rw [Bookmarks.load_save_of_not_writable hblocked]

end Catalog

end Compendium
