import Compendium.Proofs.Session.Frames

/-!
# Stores that are written as a whole or not at all

Storing keys or settings can fail in many ways: what is given has no members or no order, no data
directory is in use, the stored settings cannot be read, a merge is refused in the middle, or the
document cannot be opened. All of these come before the one writing there is, so an activity that
fails, or that has something to tell, has not written (`saveBookmarksFrom_cases`,
`updateSettings_cases`). Main theorem `unchanged_unless_stored`.
-/

namespace Compendium

/-- The activity has no value, or tells that something went wrong. -/
def Activity.Fails {α : Type} (x : Activity α) (s : Session) : Prop :=
  (∃ f, (x s).value = .error f) ∨ (x s).notices ≠ []

namespace Session

open Activity

/-- The document of the data directory in use can be written, and that leaves the second session. -/
def Stores (file : Path → Path) (v : Json) (s s' : Session) : Prop :=
  ∃ directory tree, s.storage = some directory ∧
    s.tree.write (file directory) (Document.toOctets v) = .ok tree ∧ s' = { s with tree := tree }

/-- What the value consists of has an order and can be written in it. -/
def Saves (v : Json) (s s' : Session) : Prop :=
  ∃ items, (membersOf? v).bind Json.sort? = some items ∧ Stores Bookmarks.file (.arr items) s s'

/-- The fields can be merged into the stored settings, and what they come to can be written. -/
def Updates (fields : Json) (settings : Settings) (s s' : Session) : Prop :=
  ∃ stored, (loadSettings s).value = .ok stored ∧ stored.merge fields = .ok settings ∧
    Stores Settings.file settings.toJson s s'

variable {s s' : Session}

theorem fails_of_eq_error {α : Type} {x : Activity α} {f : Failure} (h : x s = ⟨.error f, s, []⟩) :
    x.Fails s ∧ (x s).session = s := by
  rw [Fails, h]
  exact ⟨Or.inl ⟨f, rfl⟩, rfl⟩

theorem not_fails_of_eq_ok {α : Type} {x : Activity α} {a : α} (h : x s = ⟨.ok a, s', []⟩) :
    ¬ x.Fails s := by
  rw [Fails, h]
  simp

/-! ## Bookmarks -/

theorem saveBookmarksFrom_of_saves {v : Json} (h : Saves v s s') :
    saveBookmarksFrom v s = ⟨.ok (), s', []⟩ := by
  obtain ⟨items, hsort, directory, tree, hstorage, hwrite, rfl⟩ := h
  rw [saveBookmarksFrom, bind_eq_next (dataDirectory_eq hstorage), hsort]
  show saveBookmarkItems items s = _
  rw [saveBookmarkItems_eq hstorage, Bookmarks.saveItems, hwrite]
  rfl

/-- Saving what a value consists of fails and changes nothing, or it is written. -/
theorem saveBookmarksFrom_cases (v : Json) (s : Session) :
    ((saveBookmarksFrom v).Fails s ∧ (saveBookmarksFrom v s).session = s) ∨ ∃ s', Saves v s s' := by
  rcases s.storage.eq_none_or_eq_some with hnone | ⟨directory, hstorage⟩
  · exact Or.inl (fails_of_eq_error (bind_eq_error (dataDirectory_none hnone)))
  · cases hsort : (membersOf? v).bind Json.sort? with
    | none =>
      refine Or.inl (fails_of_eq_error (f := .notSortable) ?_)
      rw [saveBookmarksFrom, bind_eq_next (dataDirectory_eq hstorage), hsort]
      rfl
    | some items =>
      cases hwrite : s.tree.write (Bookmarks.file directory) (Document.toOctets (.arr items)) with
      | error fault =>
        have hsaves : saveBookmarksFrom v s = saveBookmarkItems items s := by
          rw [saveBookmarksFrom, bind_eq_next (dataDirectory_eq hstorage), hsort]
        rw [Fails, hsaves, saveBookmarkItems_eq hstorage, Bookmarks.saveItems, hwrite]
        exact Or.inl ⟨Or.inr (by simp), rfl⟩
      | ok tree => exact Or.inr ⟨_, items, hsort, directory, tree, hstorage, hwrite, rfl⟩

/-! ## Settings -/

theorem updateSettings_of_updates {fields : Json} {settings : Settings}
    (h : Updates fields settings s s') : updateSettings fields s = ⟨.ok settings, s', []⟩ := by
  obtain ⟨stored, hload, hmerge, directory, tree, hstorage, hwrite, rfl⟩ := h
  have hstored : Settings.load s.tree directory = .ok stored := by
    rw [loadSettings_eq hstorage] at hload
    split at hload
    · rename_i hsettings
      rw [hsettings, Except.ok.inj hload]
    · exact absurd hload (by simp)
  have hupdate : Settings.update s.tree directory fields = .ok (settings, tree) :=
    Settings.update_eq_ok_iff.2 ⟨stored, hstored, hmerge, hwrite⟩
  rw [updateSettings_eq hstorage, hupdate]

/-- An update fails and changes nothing, or what it comes to is written. -/
theorem updateSettings_cases (fields : Json) (s : Session) :
    ((updateSettings fields).Fails s ∧ (updateSettings fields s).session = s) ∨
      ∃ settings s', Updates fields settings s s' := by
  rcases s.storage.eq_none_or_eq_some with hnone | ⟨directory, hstorage⟩
  · exact Or.inl (fails_of_eq_error (bind_eq_error (dataDirectory_none hnone)))
  · cases hupdate : Settings.update s.tree directory fields with
    | error fault =>
      refine Or.inl (fails_of_eq_error (f := .settings fault) ?_)
      rw [updateSettings_eq hstorage, hupdate]
    | ok out =>
      obtain ⟨stored, hload, hmerge, hwrite⟩ := Settings.update_eq_ok_iff.1 hupdate
      have hstored : (loadSettings s).value = .ok stored := by
        rw [loadSettings_eq hstorage, hload]
      exact Or.inr ⟨out.1, _, stored, hstored, hmerge, directory, out.2, hstorage, hwrite, rfl⟩

/-! ## Both -/

/-- **An activity that fails to store has changed nothing**, whatever it is given and wherever it
fails. It does not fail just when there is something to write and it can be written, and then one
document is written and that is all. -/
theorem unchanged_unless_stored (v : Json) (s : Session) :
    ((saveBookmarksFrom v).Fails s → (saveBookmarksFrom v s).session = s) ∧
      ((updateSettings v).Fails s → (updateSettings v s).session = s) ∧
      (∀ s', saveBookmarksFrom v s = ⟨.ok (), s', []⟩ ↔ Saves v s s') ∧
      ∀ settings s', updateSettings v s = ⟨.ok settings, s', []⟩ ↔ Updates v settings s s' := by
  have hsave := saveBookmarksFrom_cases v s
  have hupdate := updateSettings_cases v s
  refine ⟨fun hfails => ?_, fun hfails => ?_, fun s' => ⟨fun heq => ?_, saveBookmarksFrom_of_saves⟩,
    fun settings s' => ⟨fun heq => ?_, updateSettings_of_updates⟩⟩
  · rcases hsave with ⟨-, hsame⟩ | ⟨s', hsaves⟩
    · exact hsame
    · exact absurd hfails (not_fails_of_eq_ok (saveBookmarksFrom_of_saves hsaves))
  · rcases hupdate with ⟨-, hsame⟩ | ⟨settings, s', hupdates⟩
    · exact hsame
    · exact absurd hfails (not_fails_of_eq_ok (updateSettings_of_updates hupdates))
  · rcases hsave with ⟨hfails, -⟩ | ⟨s'', hsaves⟩
    · exact absurd hfails (not_fails_of_eq_ok heq)
    · obtain rfl : s'' = s' :=
        congrArg Outcome.session ((saveBookmarksFrom_of_saves hsaves).symm.trans heq)
      exact hsaves
  · rcases hupdate with ⟨hfails, -⟩ | ⟨settings', s'', hupdates⟩
    · exact absurd hfails (not_fails_of_eq_ok heq)
    · have hout := (updateSettings_of_updates hupdates).symm.trans heq
      obtain rfl : settings' = settings := Except.ok.inj (congrArg Outcome.value hout)
      obtain rfl : s'' = s' := congrArg Outcome.session hout
      exact hupdates

/-- A directory stands in the place of the bookmarks, and the fields are refused after one of them
was merged; where nothing stands in the way, both are stored. -/
theorem unchanged_unless_stored_refused :
    let blocked : Session :=
      { emptied with tree := emptied.tree.put ["data", "bookmarks.json"] .directory }
    let keys : Json := .arr [.str "item:Rope"]
    let half : Json := .obj [("default_category", .str "spell"), ("font_settings", .int 3)]
    let whole : Json := .obj [("default_category", .str "spell")]
    ((saveBookmarksFrom keys).Fails blocked ∧ (saveBookmarksFrom keys blocked).session = blocked) ∧
      ((updateSettings half).Fails blocked ∧ (updateSettings half blocked).session = blocked) ∧
      Saves keys emptied (saveBookmarksFrom keys emptied).session ∧
      ∃ settings, Updates whole settings emptied (updateSettings whole emptied).session := by
  intro blocked keys half whole
  have hsave : (saveBookmarksFrom keys).Fails blocked :=
    Or.inr (List.ne_nil_of_length_pos (by decide))
  have hmerge : (updateSettings half).Fails blocked :=
    Or.inl ⟨.settings (.settings .fontsNotFields), rfl⟩
  let view : Settings := { Settings.defaults with defaultCategory := .str "spell" }
  exact ⟨⟨hsave, (unchanged_unless_stored keys blocked).1 hsave⟩,
    ⟨hmerge, (unchanged_unless_stored half blocked).2.1 hmerge⟩,
    ((unchanged_unless_stored keys emptied).2.2.1 _).1 rfl,
    view, ((unchanged_unless_stored whole emptied).2.2.2 view _).1 rfl⟩

end Session

end Compendium
