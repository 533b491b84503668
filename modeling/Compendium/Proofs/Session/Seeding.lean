import Compendium.Proofs.Session.Keeping
import Compendium.Proofs.Session.Saving
import Compendium.Proofs.Settings.Repeating

/-!
# Storing the demo data

The demo data takes the place of whatever was stored. The bookmarks are written without a look at
those before them, and the settings are merged only after the document that held them is gone, so
what is stored depends on the catalog alone. A second time the same bookmarks are written, the
settings are removed, which leads back to the files before they were written (`Tree.remove_of_write`),
and they are written again. Main theorem `demo_data_replaces`.
-/

namespace Compendium.Session

open Activity

/-- A session in which the demo data can be stored: a catalog and a directory are in use, and where
the two documents of the directory stand there are files, or nothing. -/
structure Seedable (directory : Path) (catalog : Catalog) (s : Session) : Prop where
  storage_eq : s.storage = some directory
  catalog_eq : s.catalog = some catalog
  bookmarks : Bookmarks.Writable s.tree directory
  settings : s.tree.at? (Settings.file directory) ≠ some .directory

/-- The demo keys that are in the catalog. -/
def demoBookmarks (catalog : Catalog) : Bookmarks :=
  Bookmarks.ofList ((demoKeys.filter (isListed catalog)).map .chars)

/-- The defaults with the demo settings merged into them. -/
def demoView : Settings :=
  { Settings.defaults with defaultCategory := .str "bookmarks", showSource := .bool true }

/-- What is told of the demo keys that are not in the catalog. -/
def demoNotices (catalog : Catalog) : List Notice :=
  (demoKeys.filter fun k => !isListed catalog k).map .demoKeyMissing

theorem merge_demoSettings : Settings.defaults.merge demoSettings = .ok demoView := rfl

theorem mem_demoBookmarks_iff {catalog : Catalog} {k : Text} : k ∈ (demoBookmarks catalog).keys ↔
    ∃ key ∈ demoKeys, (∃ e, catalog.find? key = some e) ∧ k = key := by
  simp only [demoBookmarks, Bookmarks.mem_ofList_iff, List.mem_map, List.mem_filter, isListed,
    Option.isSome_iff_exists, and_assoc, eq_comm (a := k)]

theorem storable_demoSettings : demoSettings.Storable := by
  have htext : (Json.str "bookmarks").Storable := ⟨.str _, .str _⟩
  have htruth : (Json.bool true).Storable := ⟨.bool _, .bool _⟩
  simp [demoSettings, Json.storable_obj_iff, Fields.names, htext, htruth]

/-! ## The steps -/

variable {s : Session} {directory : Path} {catalog : Catalog}

/-- The files after each step of storing the demo data: bookmarks are written, the settings that
were stored are removed, and the settings to show are written. -/
structure SeedSteps (directory : Path) (catalog : Catalog) (s : Session) (saved removed seeded : Tree) :
    Prop where
  save : s.tree.write (Bookmarks.file directory) (demoBookmarks catalog).octets = .ok saved
  remove : removeSettings { s with tree := saved } = ⟨.ok (), { s with tree := removed }, []⟩
  absent : removed.at? (Settings.file directory) = none
  write : removed.write (Settings.file directory) (Document.toOctets demoView.toJson) = .ok seeded
  bookmarks : seeded.at? (Bookmarks.file directory) = some (.file (demoBookmarks catalog).octets)

namespace SeedSteps

variable {saved removed seeded : Tree}

/-- Where no settings are stored, the demo settings come to the defaults with them merged in. -/
theorem update_eq (h : SeedSteps directory catalog s saved removed seeded) :
    Settings.update removed directory demoSettings = .ok (demoView, seeded) := by
  have hload : Settings.load removed directory = .ok Settings.defaults := by
    simp only [Settings.load, Tree.octets?, h.absent]
  exact Settings.update_eq_ok_iff.2 ⟨Settings.defaults, hload, merge_demoSettings, h.write⟩

theorem seedDemo_eq (h : SeedSteps directory catalog s saved removed seeded)
    (hstorage : s.storage = some directory) (hcatalog : s.catalog = some catalog) :
    seedDemo s = ⟨.ok (), { s with tree := seeded }, demoNotices catalog⟩ := by
  have hsaved : saveBookmarks (demoBookmarks catalog) s = ⟨.ok (), { s with tree := saved }, []⟩ := saveBookmarks_of_write hstorage h.save
  have hupdated : updateSettings demoSettings { s with tree := removed } =
      ⟨.ok demoView, { s with tree := seeded }, []⟩ := by
    have hupdated := @updateSettings_eq { s with tree := removed } directory hstorage demoSettings
    simpa only [h.update_eq] using hupdated
  unfold seedDemo
  rw [bind_eq_next (currentCatalog_eq hcatalog), bind_eq (x := tellAll _) rfl,
    ← demoBookmarks, bind_eq_next hsaved, bind_eq_next h.remove, bind_eq_next hupdated]
  simp [pure, give, demoNotices]

/-- Taken again from where they led, the steps lead there again: the bookmarks are what is written,
and without the settings the files are those before these were written. -/
theorem again (h : SeedSteps directory catalog s saved removed seeded)
    (hstorage : s.storage = some directory) :
    SeedSteps directory catalog { s with tree := seeded } seeded removed seeded where
  save := Tree.write_of_at? h.bookmarks
  remove := by
    have hthere : seeded.contains (Settings.file directory) = true := by
      simp [Tree.contains, Tree.at?_of_write h.write]
    have hremove := @removeSettings_eq { s with tree := seeded } directory hstorage
    simpa only [hthere, if_true, Tree.remove_of_write h.absent h.write] using hremove
  absent := h.absent
  write := h.write
  bookmarks := h.bookmarks

theorem loadBookmarks_eq (h : SeedSteps directory catalog s saved removed seeded)
    (hstorage : s.storage = some directory) :
    loadBookmarks { s with tree := seeded } =
      ⟨.ok (demoBookmarks catalog), { s with tree := seeded }, []⟩ :=
  loadBookmarks_of_octets hstorage h.bookmarks

theorem loadSettings_eq (h : SeedSteps directory catalog s saved removed seeded)
    (hstorage : s.storage = some directory) :
    loadSettings { s with tree := seeded } = ⟨.ok demoView, { s with tree := seeded }, []⟩ := by
  have hload := (Settings.update_update storable_demoSettings h.update_eq).1
  have hloaded := @Session.loadSettings_eq { s with tree := seeded } directory hstorage
  simpa only [hload] using hloaded

end SeedSteps

/-- Where the demo data can be stored, each step succeeds, and no other file of the directory is
touched. -/
theorem Seedable.steps (h : Seedable directory catalog s) : ∃ saved removed seeded : Tree,
    SeedSteps directory catalog s saved removed seeded ∧
      ∀ name, name ≠ ".." → name ≠ "bookmarks.json" → name ≠ "config.json" →
        seeded.at? (directory.child name) = s.tree.at? (directory.child name) := by
  obtain ⟨saved, hsave, -⟩ := Bookmarks.write_of_writable h.bookmarks (demoBookmarks catalog)
  have hsaved : ∀ name, name ≠ ".." → saved.at? (directory.child name) =
      if name = "bookmarks.json" then some (.file (demoBookmarks catalog).octets)
      else s.tree.at? (directory.child name) := fun name hup =>
    Tree.at?_write_child (by decide) hup h.bookmarks.made hsave
  have hmade := Tree.at?_directory_of_keeps (Tree.keepsDirectories_write hsave) h.bookmarks.made
  have hfree : saved.at? (Settings.file directory) ≠ some .directory := by
    rw [Settings.file, hsaved _ (by decide)]
    exact h.settings
  obtain ⟨removed, hremove, hthere, habsent, hothers⟩ :=
    @removeSettings_of_free { s with tree := saved } directory h.storage_eq hmade hfree
  obtain ⟨seeded, hwrite⟩ := Tree.write_child "config.json" (by decide) hthere
    (fun hdirectory => by rw [← Settings.file, habsent] at hdirectory; simp at hdirectory)
    (Document.toOctets demoView.toJson)
  have hseeded : ∀ name, name ≠ ".." → name ≠ "config.json" →
      seeded.at? (directory.child name) = saved.at? (directory.child name) := fun name hup hother =>
    ((Tree.at?_write_child (by decide) hup hthere hwrite).trans (if_neg hother)).trans
      (hothers name hup hother)
  refine ⟨saved, removed, seeded, ⟨hsave, hremove, habsent, hwrite, ?_⟩, ?_⟩
  · rw [Bookmarks.file, hseeded _ (by decide) (by decide), hsaved _ (by decide), if_pos rfl]
  · intro name hup hbookmarks hsettings
    rw [hseeded name hup hsettings, hsaved name hup, if_neg hbookmarks]

/-! ## What is stored then -/

/-- **The demo data replaces what was stored, whatever that was.** The bookmarks are the demo keys of
which the catalog has an entry, and the settings are the defaults with the demo settings merged into
them. The octets of both documents are fixed by the catalog: neither the files before nor the place of
the directory make a difference. Storing the demo data again changes nothing. -/
theorem demo_data_replaces (catalog : Catalog) : ∃ (b : Bookmarks) (settings : Settings),
    (∀ k, k ∈ b.keys ↔ ∃ key ∈ demoKeys, (∃ e, catalog.find? key = some e) ∧ k = key) ∧
    Settings.defaults.merge demoSettings = .ok settings ∧
    ∀ (s : Session) (directory : Path), Seedable directory catalog s →
      ∃ after notices, seedDemo s = ⟨.ok (), after, notices⟩ ∧
        after.tree.octets? (Bookmarks.file directory) = some b.octets ∧
        after.tree.octets? (Settings.file directory) = some (Document.toOctets settings.toJson) ∧
        loadBookmarks after = ⟨.ok b, after, []⟩ ∧ loadSettings after = ⟨.ok settings, after, []⟩ ∧
        (∀ name, name ≠ ".." → name ≠ "bookmarks.json" → name ≠ "config.json" →
          after.tree.at? (directory.child name) = s.tree.at? (directory.child name)) ∧
        seedDemo after = ⟨.ok (), after, notices⟩ := by
  refine ⟨demoBookmarks catalog, demoView, fun _ => mem_demoBookmarks_iff, merge_demoSettings,
    fun s directory h => ?_⟩
  obtain ⟨saved, removed, seeded, hsteps, hothers⟩ := h.steps
  refine ⟨{ s with tree := seeded }, demoNotices catalog,
    hsteps.seedDemo_eq h.storage_eq h.catalog_eq, ?_, ?_, hsteps.loadBookmarks_eq h.storage_eq,
    hsteps.loadSettings_eq h.storage_eq, hothers,
    (hsteps.again h.storage_eq).seedDemo_eq h.storage_eq h.catalog_eq⟩
  · simp only [Tree.octets?, hsteps.bookmarks]
  · simp only [Tree.octets?, Tree.at?_of_write hsteps.write]

/-- A catalog of one creature and one spell that the demo data bookmarks. -/
def wolfAndLight : Catalog :=
  Catalog.ofCollections
    ⟨[.obj [("name", .str "Dire Wolf")]], [.obj [("name", .str "Light")], .null], [.obj []]⟩

/-- Bookmarks that are no text, and settings that break off. -/
def garbled : Session where
  tree := ⟨[(["data"], .directory), (["data", "config.json"], .file (Text.Utf8.encode ['[', '1'])),
    (["data", "bookmarks.json"], .file [255])]⟩
  storage := some ⟨["data"]⟩
  catalog := some wolfAndLight

/-- Garbled documents and none give way to the same octets. -/
theorem demo_data_replaces_garbled :
    let bare : Session := { emptied with catalog := some wolfAndLight }
    let after := (seedDemo garbled).session
    (loadSettings garbled).value.isOk = false ∧ (seedDemo garbled).value = .ok () ∧
      (seedDemo bare).value = .ok () ∧
      after.tree.octets? (Bookmarks.file ⟨["data"]⟩) =
        (seedDemo bare).session.tree.octets? (Bookmarks.file ⟨["data"]⟩) ∧
      after.tree.octets? (Settings.file ⟨["data"]⟩) =
        (seedDemo bare).session.tree.octets? (Settings.file ⟨["data"]⟩) ∧
      (∃ b, (loadBookmarks after).value = .ok b ∧ .chars "spell:Light" ∈ b.keys) ∧
      (seedDemo after).session = after := by
  intro bare after
  obtain ⟨b, settings, hkeys, -, hseeded⟩ := demo_data_replaces wolfAndLight
  have hgarbled : Seedable ⟨["data"]⟩ wolfAndLight garbled :=
    ⟨rfl, rfl, ⟨by decide, by decide⟩, by decide⟩
  have hbare : Seedable ⟨["data"]⟩ wolfAndLight bare := ⟨rfl, rfl, ⟨by decide, by decide⟩, by decide⟩
  obtain ⟨_, _, hseed, hmarks, hchoices, hload, -, -, hagain⟩ := hseeded garbled _ hgarbled
  obtain ⟨_, _, hseed', hmarks', hchoices', -⟩ := hseeded bare _ hbare
  have hafter : after = _ := congrArg Outcome.session hseed
  have hlight : .chars "spell:Light" ∈ b.keys := (hkeys _).2
    ⟨"spell:Light", by decide, Option.isSome_iff_exists.1 (by decide), rfl⟩
  refine ⟨by decide +kernel, congrArg Outcome.value hseed, congrArg Outcome.value hseed', ?_, ?_,
    ⟨b, ?_, hlight⟩, ?_⟩
  · rw [hafter, hmarks, hseed', hmarks']
  · rw [hafter, hchoices, hseed', hchoices']
  · rw [hafter, hload]
  · rw [hafter, hagain]

end Compendium.Session
