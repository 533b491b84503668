import Compendium.Proofs.Bookmarks.Store
import Compendium.Proofs.Session.Frames

/-!
# Toggling when the store cannot be written

Toggling a bookmark always gives a state of the key, also when saving fails: the failure is told in
a notice and the files stay as they are. So the state that is given is the stored one just when the
document can be written. Main theorem `toggled_is_stored_iff`; what the document held before makes
no difference, but a directory in its place does (`toggled_lost_in_directory`).
-/

namespace Compendium

namespace Bookmarks

/-! ## What is loaded after saving -/

theorem load_save_of_writable {t : Tree} {directory : Path} (h : Writable t directory)
    (b : Bookmarks) : load (save t directory b).1 directory = (b, none) := by
  obtain ⟨t', hsave, -, hstored⟩ := save_of_writable h b
  rw [hsave]
  exact load_of_stored hstored

theorem load_save_of_not_writable {t : Tree} {directory : Path} (h : ¬ Writable t directory)
    (b : Bookmarks) : load (save t directory b).1 directory = load t directory := by
  obtain ⟨f, hsave⟩ := save_of_not_writable h b
  rw [hsave]

theorem has_toggle (b : Bookmarks) (key : Text) : (b.toggle key).has key = !b.has key := by
  have hmem : key ∈ (b.toggle key).keys ↔ ¬ key ∈ b.keys := by
    rw [mem_toggle_iff]
    simp
  simp only [has, hmem, decide_not]

end Bookmarks

namespace Session

/-! ## The state that is given and the state that is stored -/

theorem value_toggleBookmark {s : Session} {directory : Path} (h : s.storage = some directory)
    (key : Text) :
    (toggleBookmark key s).value = .ok (!(Bookmarks.load s.tree directory).1.has key) := by
  rw [toggleBookmark_eq h, ← Bookmarks.has_toggle]

theorem session_toggleBookmark {s : Session} {directory : Path} (h : s.storage = some directory)
    (key : Text) :
    (toggleBookmark key s).session =
      { s with tree := (Bookmarks.save s.tree directory
        ((Bookmarks.load s.tree directory).1.toggle key)).1 } :=
  congrArg Outcome.session (toggleBookmark_eq h key)

theorem value_loadBookmarks {s : Session} {directory : Path} (h : s.storage = some directory) :
    (loadBookmarks s).value = .ok (Bookmarks.load s.tree directory).1 :=
  congrArg Outcome.value (loadBookmarks_eq h)

theorem value_loadBookmarks_toggleBookmark {s : Session} {directory : Path}
    (h : s.storage = some directory) (key : Text) :
    (loadBookmarks (toggleBookmark key s).session).value =
      .ok (Bookmarks.load (Bookmarks.save s.tree directory
        ((Bookmarks.load s.tree directory).1.toggle key)).1 directory).1 := by
  rw [session_toggleBookmark h]
  exact value_loadBookmarks h

/-- **The state that toggling gives is the stored one just when the store can be written.** Toggling
gives a state, and loading then gives a set, whatever the files are. -/
theorem toggled_is_stored_iff (s : Session) {directory : Path} (h : s.storage = some directory)
    (key : Text) :
    ∃ b stored, (toggleBookmark key s).value = .ok b ∧
      (loadBookmarks (toggleBookmark key s).session).value = .ok stored ∧
      ((key ∈ stored.keys ↔ b = true) ↔ Bookmarks.Writable s.tree directory) := by
  refine ⟨_, _, value_toggleBookmark h key, value_loadBookmarks_toggleBookmark h key, ?_⟩
  by_cases hwritable : Bookmarks.Writable s.tree directory
  · rw [Bookmarks.load_save_of_writable hwritable, ← Bookmarks.has_toggle]
    simp [hwritable, Bookmarks.has]
  · rw [Bookmarks.load_save_of_not_writable hwritable]
    -- the stored set is the one before, and the state that is given is never its own
    simp [hwritable, Bookmarks.has]

/-- Files in which the store holds octets that are no document. -/
def garbledTree : Tree where
  nodes := [(["data"], .directory),
    (["data", "bookmarks.json"], .file (Text.Utf8.encode "[\"spell:Light\"".toList))]

theorem toggled_is_stored_garbled :
    ∃ b stored, (toggleBookmark "spell:Light" ⟨garbledTree, some ⟨["data"]⟩, none⟩).value = .ok b ∧
      (loadBookmarks (toggleBookmark "spell:Light"
        ⟨garbledTree, some ⟨["data"]⟩, none⟩).session).value = .ok stored ∧
      (.chars "spell:Light" ∈ stored.keys ↔ b = true) := by
  obtain ⟨b, stored, hvalue, hloaded, hiff⟩ :=
    toggled_is_stored_iff ⟨garbledTree, some ⟨["data"]⟩, none⟩ rfl "spell:Light"
  exact ⟨b, stored, hvalue, hloaded, hiff.2 ⟨by decide, by decide⟩⟩

/-- Files in which a directory stands in the place of the store. -/
def blockedTree : Tree where
  nodes := [(["data"], .directory), (["data", "bookmarks.json"], .directory)]

/-- The directory of the store is taken into use, toggling a key says that it is bookmarked now, and
the set that is loaded then is empty. -/
theorem toggled_lost_in_directory :
    useStorage ⟨["data"]⟩ ⟨blockedTree, none, none⟩ =
        ⟨.ok (), ⟨blockedTree, some ⟨["data"]⟩, none⟩, []⟩ ∧
      (toggleBookmark "spell:Light" ⟨blockedTree, some ⟨["data"]⟩, none⟩).value = .ok true ∧
      (loadBookmarks (toggleBookmark "spell:Light"
        ⟨blockedTree, some ⟨["data"]⟩, none⟩).session).value = .ok .empty := by
  refine ⟨rfl, ?_, ?_⟩
  · rw [value_toggleBookmark rfl]
    rfl
  · rw [value_loadBookmarks_toggleBookmark rfl, Bookmarks.load_save_of_not_writable]
    · rfl
    · intro h
      exact h.free rfl

end Session

end Compendium
