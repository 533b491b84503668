import Compendium.Proofs.Files.Writing
import Compendium.Proofs.Session.Frames
import Compendium.Session.Demo

/-!
# What stays in use

An activity that takes nothing into use and removes no directory leaves the data directory and the
catalog in use as they are, and every path that led to a directory still does (`KeepsUse`). Reading
and writing one file are of that kind, and so is storing the demo data, which removes a file as well
(`keepsUse_seedDemo`). Removing the settings leaves every other file of the directory
(`removeSettings_of_free`).
-/

namespace Compendium

/-- The second session uses what the first does, and has its directories. -/
structure Session.StillUses (s s' : Session) : Prop where
  storage_eq : s'.storage = s.storage
  catalog_eq : s'.catalog = s.catalog
  directories : s.tree.KeepsDirectories s'.tree

namespace Session.StillUses

variable {s s' s'' : Session}

theorem refl (s : Session) : StillUses s s := ⟨rfl, rfl, .refl _⟩

theorem trans (h : StillUses s s') (h' : StillUses s' s'') : StillUses s s'' :=
  ⟨h'.storage_eq.trans h.storage_eq, h'.catalog_eq.trans h.catalog_eq, h.directories.trans h'.directories⟩

end Session.StillUses

namespace Activity

variable {α β : Type} {x : Activity α} {next : α → Activity β}

/-- The activity takes nothing into use, and removes no directory. -/
def KeepsUse (x : Activity α) : Prop := ∀ s, Session.StillUses s (x s).session

theorem Reads.keepsUse (hx : Reads x) : KeepsUse x := by
  intro s
  rw [hx s]
  exact .refl s

theorem Writes.keepsUse {file : Path → Path} (hx : Writes file x) : KeepsUse x := by
  intro s
  rcases hx s with h | ⟨directory, octets, tree, -, hwrite, h⟩
  · rw [h]
    exact .refl s
  · rw [h]
    exact ⟨rfl, rfl, Tree.keepsDirectories_write hwrite⟩

theorem KeepsUse.bind (hx : KeepsUse x) (hnext : ∀ a, KeepsUse (next a)) : KeepsUse (x >>= next) := by
  intro s
  rcases session_bind x next s with h | ⟨a, h⟩
  · rw [h]
    exact hx s
  · rw [h]
    exact (hx s).trans (hnext a _)

end Activity

namespace Session

open Activity

/-- The stored settings are removed where no directory stands in their place, and nothing else is. -/
theorem removeSettings_of_free {s : Session} {directory : Path}
    (hstorage : s.storage = some directory) (hmade : s.tree.at? directory = some .directory)
    (hfree : s.tree.at? (Settings.file directory) ≠ some .directory) :
    ∃ tree, removeSettings s = ⟨.ok (), { s with tree := tree }, []⟩ ∧
      tree.at? directory = some .directory ∧ tree.at? (Settings.file directory) = none ∧
      ∀ name, name ≠ ".." → name ≠ "config.json" →
        tree.at? (directory.child name) = s.tree.at? (directory.child name) := by
  rw [removeSettings_eq hstorage]
  rcases hnode : s.tree.at? (Settings.file directory) with _ | _ | octets
  · exact ⟨s.tree, by simp [Tree.contains, hnode], hmade, hnode, fun _ _ _ => rfl⟩
  · exact absurd hnode hfree
  · obtain ⟨tree, hremove, hnone⟩ := Tree.remove_of_file hnode
    refine ⟨tree, by simp [Tree.contains, hnode, hremove], ?_, hnone, fun name hup hother => ?_⟩
    · exact Tree.at?_directory_of_keeps (Tree.keepsDirectories_remove hremove) hmade
    · exact (Tree.at?_remove_child (by decide) hup hmade hremove).trans (if_neg hother)

theorem keepsUse_removeSettings : KeepsUse removeSettings := by
  intro s
  -- It is not put together from `Reads` and `Writes`, because what it sets depends on the files.
  rcases s.storage.eq_none_or_eq_some with h | ⟨directory, h⟩
  · rw [removeSettings, bind_eq_error (dataDirectory_none h)]
    exact .refl s
  · rw [removeSettings_eq h]
    split
    · cases hremove : s.tree.remove (Settings.file directory) with
      | ok tree => exact ⟨rfl, rfl, Tree.keepsDirectories_remove hremove⟩
      | error fault => exact .refl s
    · exact .refl s

theorem keepsUse_seedDemo : KeepsUse seedDemo :=
  reads_currentCatalog.keepsUse.bind fun _ => (Reads.keepsUse fun _ => rfl).bind fun _ =>
    (writes_saveBookmarkItems _).keepsUse.bind fun _ => keepsUse_removeSettings.bind fun _ =>
      (writes_updateSettings _).keepsUse.bind fun _ => (reads_pure _).keepsUse

end Session

end Compendium
