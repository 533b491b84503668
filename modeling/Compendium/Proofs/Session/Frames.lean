import Compendium.Session.Store

/-!
# What activities leave as it is

Most activities leave the session as it is (`Reads`); those that store something write one file of
the data directory in use, or nothing (`Writes`). Both are kept by doing one thing after another, so
each activity is settled by its parts. The activities on the stores are given as equations, because
what they come to depends on nothing but the files and the data directory.
-/

namespace Compendium

namespace Activity

variable {α β : Type} {x : Activity α} {next : α → Activity β} {s : Session}

/-! ## One after another -/

theorem bind_eq {a : α} {after : Session} {notices : List Notice}
    (h : x s = ⟨.ok a, after, notices⟩) :
    (x >>= next) s =
      ⟨(next a after).value, (next a after).session, notices ++ (next a after).notices⟩ := by
  show andThen x next s = _
  simp only [andThen, h]

/-- An activity that tells nothing is passed over. -/
theorem bind_eq_next {a : α} {after : Session} (h : x s = ⟨.ok a, after, []⟩) :
    (x >>= next) s = next a after := by
  rw [bind_eq h, List.nil_append]

theorem bind_eq_error {f : Failure} {after : Session} {notices : List Notice}
    (h : x s = ⟨.error f, after, notices⟩) : (x >>= next) s = ⟨.error f, after, notices⟩ := by
  show andThen x next s = _
  simp only [andThen, h]

/-- What comes to a value came to one in its first part. -/
theorem of_bind_ok {b : β} (h : ((x >>= next) s).value = .ok b) :
    ∃ a, (x s).value = .ok a ∧ (next a (x s).session).value = .ok b ∧
      ((x >>= next) s).session = (next a (x s).session).session := by
  rcases hx : x s with ⟨f | a, after, notices⟩
  · rw [bind_eq_error hx] at h
    exact absurd h (by simp)
  · rw [bind_eq hx] at h
    exact ⟨a, rfl, h, by rw [bind_eq hx]⟩

/-- What comes first either fails, and that is all, or leaves a session to what comes next. -/
theorem session_bind (x : Activity α) (next : α → Activity β) (s : Session) :
    ((x >>= next) s).session = (x s).session ∨
      ∃ a, ((x >>= next) s).session = (next a (x s).session).session := by
  rcases hx : x s with ⟨value | a, after, notices⟩
  · exact Or.inl (by rw [bind_eq_error hx])
  · exact Or.inr ⟨a, by rw [bind_eq hx]⟩

theorem session_bind_of_ok {a : α} (h : (x s).value = .ok a) :
    ((x >>= next) s).session = (next a (x s).session).session := by
  have hx : x s = ⟨.ok a, (x s).session, (x s).notices⟩ := by rw [← h]
  rw [bind_eq hx]

theorem value_bind_of_ok {a : α} (h : (x s).value = .ok a) :
    ((x >>= next) s).value = (next a (x s).session).value := by
  have hx : x s = ⟨.ok a, (x s).session, (x s).notices⟩ := by rw [← h]
  rw [bind_eq hx]

/-- A value that is made into another one at the end. -/
theorem bind_pure_eq (x : Activity α) (f : α → β) (s : Session) :
    (x >>= fun a => pure (f a)) s = ⟨(x s).value.map f, (x s).session, (x s).notices⟩ := by
  rcases hx : x s with ⟨fault | a, after, notices⟩
  · rw [bind_eq_error hx]
    rfl
  · rw [bind_eq hx]
    simp [pure, give, Except.map]

/-! ## Activities that only read -/

/-- The activity leaves the session as it is. -/
def Reads (x : Activity α) : Prop := ∀ s, (x s).session = s

theorem reads_pure (a : α) : Reads (pure a : Activity α) := fun _ => rfl

theorem reads_fail (f : Failure) : Reads (fail f : Activity α) := fun _ => rfl

theorem reads_tell (n : Notice) : Reads (tell n) := fun _ => rfl

theorem reads_session : Reads session := fun _ => rfl

theorem Reads.bind (hx : Reads x) (hnext : ∀ a, Reads (next a)) : Reads (x >>= next) := by
  intro s
  rcases session_bind x next s with h | ⟨a, h⟩
  · rw [h, hx s]
  · rw [h, hnext a, hx s]

/-! ## Activities that write one file -/

/-- The activity leaves the session as it is, or writes that file of the data directory in use. -/
def Writes (file : Path → Path) (x : Activity α) : Prop :=
  ∀ s, (x s).session = s ∨ ∃ directory octets tree, s.storage = some directory ∧
    s.tree.write (file directory) octets = .ok tree ∧ (x s).session = { s with tree := tree }

variable {file : Path → Path}

theorem Reads.writes (hx : Reads x) : Writes file x := fun s => Or.inl (hx s)

theorem Reads.bind_writes (hx : Reads x) (hnext : ∀ a, Writes file (next a)) :
    Writes file (x >>= next) := by
  intro s
  rcases session_bind x next s with h | ⟨a, h⟩
  · exact Or.inl (by rw [h, hx s])
  · rw [h, hx s]
    exact hnext a s

theorem Writes.bind_reads (hx : Writes file x) (hnext : ∀ a, Reads (next a)) :
    Writes file (x >>= next) := by
  intro s
  have hsession : ((x >>= next) s).session = (x s).session := by
    rcases session_bind x next s with h | ⟨a, h⟩
    · exact h
    · rw [h, hnext a]
  rw [hsession]
  exact hx s

end Activity

namespace Session

open Activity

/-! ## What is in use -/

variable {s : Session} {directory : Path}

/-- A session that uses a data directory with nothing in it. -/
def emptied : Session := (useStorage ⟨["data"]⟩ fresh).session

theorem reads_dataDirectory : Reads dataDirectory :=
  reads_session.bind fun s => by
    split
    · exact reads_pure _
    · exact reads_fail _

theorem reads_currentCatalog : Reads currentCatalog :=
  reads_session.bind fun s => by
    split
    · exact reads_pure _
    · exact reads_fail _

theorem dataDirectory_eq (h : s.storage = some directory) :
    dataDirectory s = ⟨.ok directory, s, []⟩ := by
  unfold dataDirectory
  rw [bind_eq_next (x := Activity.session) rfl, h]
  rfl

theorem dataDirectory_none (h : s.storage = none) :
    dataDirectory s = ⟨.error .noStorage, s, []⟩ := by
  unfold dataDirectory
  rw [bind_eq_next (x := Activity.session) rfl, h]
  rfl

theorem currentCatalog_eq {catalog : Catalog} (h : s.catalog = some catalog) :
    currentCatalog s = ⟨.ok catalog, s, []⟩ := by
  unfold currentCatalog
  rw [bind_eq_next (x := Activity.session) rfl, h]
  rfl

theorem readCatalog_eq (directory : Path) (s : Session) :
    readCatalog directory s =
      match Catalog.readCollections s.tree directory with
      | .ok c => ⟨.ok (.ofCollections c), s, (Catalog.skipped c).map .skipped⟩
      | .error f => ⟨.error (.catalog f), s, []⟩ := by
  unfold readCatalog
  rw [bind_eq_next (x := Activity.session) rfl]
  cases Catalog.readCollections s.tree directory with
  | error f => rfl
  | ok c => simp [bind_eq (x := tellAll _) rfl, pure, give]

/-! ## The stores -/

theorem reads_tellBookmarks (n : Option Bookmarks.Notice) : Reads (tellBookmarks n) := by
  cases n with
  | none => exact fun _ => rfl
  | some n => exact reads_tell _

theorem reads_loadBookmarks : Reads loadBookmarks :=
  reads_dataDirectory.bind fun _ => reads_session.bind fun _ =>
    (reads_tellBookmarks _).bind fun _ => reads_pure _

theorem reads_loadSettings : Reads loadSettings :=
  reads_dataDirectory.bind fun _ => reads_session.bind fun _ => by
    split
    · exact reads_pure _
    · exact reads_fail _

theorem loadBookmarks_eq (h : s.storage = some directory) :
    loadBookmarks s =
      let loaded := Bookmarks.load s.tree directory
      ⟨.ok loaded.1, s, (loaded.2.map Notice.bookmarks).toList⟩ := by
  unfold loadBookmarks
  rw [bind_eq_next (dataDirectory_eq h), bind_eq_next (x := Activity.session) rfl]
  rcases Bookmarks.load s.tree directory with ⟨b, _ | n⟩ <;> rfl

theorem saveBookmarkItems_eq (h : s.storage = some directory) (items : List Json) :
    saveBookmarkItems items s =
      let saved := Bookmarks.saveItems s.tree directory items
      ⟨.ok (), { s with tree := saved.1 }, (saved.2.map Notice.bookmarks).toList⟩ := by
  unfold saveBookmarkItems
  rw [bind_eq_next (dataDirectory_eq h), bind_eq_next (x := Activity.session) rfl]
  rcases Bookmarks.saveItems s.tree directory items with ⟨tree, _ | n⟩ <;> rfl

theorem toggleBookmark_eq (h : s.storage = some directory) (key : Text) :
    toggleBookmark key s =
      let loaded := Bookmarks.load s.tree directory
      let saved := Bookmarks.save s.tree directory (loaded.1.toggle key)
      ⟨.ok ((loaded.1.toggle key).has key), { s with tree := saved.1 },
        (loaded.2.map Notice.bookmarks).toList ++ (saved.2.map Notice.bookmarks).toList⟩ := by
  unfold toggleBookmark
  rw [bind_eq (loadBookmarks_eq h), saveBookmarks, bind_eq (saveBookmarkItems_eq h _)]
  simp [Bookmarks.save, pure, give]

theorem loadSettings_eq (h : s.storage = some directory) :
    loadSettings s =
      match Settings.load s.tree directory with
      | .ok settings => ⟨.ok settings, s, []⟩
      | .error f => ⟨.error (.settings f), s, []⟩ := by
  unfold loadSettings
  rw [bind_eq_next (dataDirectory_eq h), bind_eq_next (x := Activity.session) rfl]
  cases Settings.load s.tree directory <;> rfl

theorem updateSettings_eq (h : s.storage = some directory) (fields : Json) :
    updateSettings fields s =
      match Settings.update s.tree directory fields with
      | .ok out => ⟨.ok out.1, { s with tree := out.2 }, []⟩
      | .error f => ⟨.error (.settings f), s, []⟩ := by
  unfold updateSettings
  rw [bind_eq_next (dataDirectory_eq h), bind_eq_next (x := Activity.session) rfl]
  cases Settings.update s.tree directory fields <;> rfl

theorem removeSettings_eq (h : s.storage = some directory) :
    removeSettings s =
      if s.tree.contains (Settings.file directory) then
        match s.tree.remove (Settings.file directory) with
        | .ok tree => ⟨.ok (), { s with tree := tree }, []⟩
        | .error f => ⟨.error (.file f), s, []⟩
      else ⟨.ok (), s, []⟩ := by
  unfold removeSettings
  rw [bind_eq_next (dataDirectory_eq h), bind_eq_next (x := Activity.session) rfl]
  split
  · cases s.tree.remove (Settings.file directory) <;> rfl
  · rfl

theorem writes_saveBookmarkItems (items : List Json) :
    Writes Bookmarks.file (saveBookmarkItems items) := by
  intro s
  rcases s.storage.eq_none_or_eq_some with h | ⟨directory, h⟩
  · exact Or.inl (congrArg Outcome.session (bind_eq_error (dataDirectory_none h)))
  · rw [saveBookmarkItems_eq h]
    unfold Bookmarks.saveItems
    split
    · rename_i tree hwrite
      exact Or.inr ⟨directory, _, tree, h, hwrite, rfl⟩
    · exact Or.inl rfl

theorem writes_toggleBookmark (key : Text) : Writes Bookmarks.file (toggleBookmark key) :=
  reads_loadBookmarks.bind_writes fun _ =>
    (writes_saveBookmarkItems _).bind_reads fun _ => reads_pure _

theorem writes_updateSettings (fields : Json) : Writes Settings.file (updateSettings fields) := by
  intro s
  rcases s.storage.eq_none_or_eq_some with h | ⟨directory, h⟩
  · exact Or.inl (congrArg Outcome.session (bind_eq_error (dataDirectory_none h)))
  · rw [updateSettings_eq h]
    cases hupdate : Settings.update s.tree directory fields with
    | error f => exact Or.inl rfl
    | ok out => exact Or.inr ⟨directory, _, out.2, h, Settings.write_of_update hupdate, rfl⟩

end Session

end Compendium
