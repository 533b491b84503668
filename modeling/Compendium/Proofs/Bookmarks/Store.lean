import Compendium.Bookmarks
import Compendium.Proofs.Files.Writing
import Compendium.Proofs.Json.Written

/-!
# The store of bookmarks

What it means that a data directory stores a set of keys (`Stored`), and that loading and saving
agree about it: a stored set is loaded without a notice (`load_of_stored`), and saving a set where
one is stored succeeds and stores the new one. Main theorem `save_of_stored`.
-/

namespace Compendium.Bookmarks

/-- The document in the directory lists just these keys, or there is none and no keys. -/
def Stored (t : Tree) (directory : Path) (keys : List Text) : Prop :=
  (t.at? (file directory) = none ∧ keys = []) ∨
    ∃ octets, t.at? (file directory) = some (.file octets) ∧
      Document.ofOctets octets = .ok (.arr (keys.map .str))

/-! ## Loading -/

theorem texts?_map_str (keys : List Text) : texts? (keys.map .str) = some keys := by
  induction keys with
  | nil => rfl
  | cons key rest ih => simp [texts?, ih]

theorem ofList_keys (b : Bookmarks) : ofList b.keys = b := ext fun _ => mem_ofList_iff

theorem load_of_stored {t : Tree} {directory : Path} {b : Bookmarks} (h : Stored t directory b.keys) :
    load t directory = (b, none) := by
  rcases h with ⟨habsent, hnone⟩ | ⟨octets, hfile, hread⟩
  · have hb : empty = b := ext fun k => by simp [empty, hnone]
    simp only [load, Tree.octets?, habsent, hb]
  · simp only [load, Tree.octets?, hfile, ofDocument, hread, texts?_map_str, ofList_keys]

/-! ## Saving -/

theorem readsBack_texts (keys : List Text) : (Json.arr (keys.map .str)).ReadsBack := by
  apply Json.readsBack_arr
  intro v hv
  obtain ⟨key, -, rfl⟩ := List.mem_map.1 hv
  exact Json.readsBack_str key

theorem stored_of_octets {t : Tree} {directory : Path} {keys : List Text}
    (h : t.at? (file directory) = some (.file (Document.toOctets (.arr (keys.map .str))))) :
    Stored t directory keys :=
  Or.inr ⟨_, h, Document.ofOctets_toOctets (readsBack_texts keys)⟩

theorem stored_of_write {t t' : Tree} {directory : Path} {keys : List Text}
    (hwrite : t.write (file directory) (Document.toOctets (.arr (keys.map .str))) = .ok t') :
    Stored t' directory keys := stored_of_octets (Tree.at?_of_write hwrite)

/-- Writing another file of the directory does not touch the store. -/
theorem stored_write_other {t t' : Tree} {directory : Path} {name : String} {octets : List UInt8}
    {keys : List Text} (hname : name ≠ "..") (hother : name ≠ "bookmarks.json")
    (hdirectory : t.at? directory = some .directory)
    (hwrite : t.write (directory.child name) octets = .ok t') (h : Stored t directory keys) :
    Stored t' directory keys := by
  have hsame : t'.at? (file directory) = t.at? (file directory) :=
    (Tree.at?_write_child hname (by decide) hdirectory hwrite).trans (if_neg (Ne.symm hother))
  unfold Stored
  rwa [hsame]

/-- The document can be written: the directory is there, and no directory stands in the place of
the document. -/
structure Writable (t : Tree) (directory : Path) : Prop where
  made : t.at? directory = some .directory
  free : t.at? (file directory) ≠ some .directory

theorem writable_iff {t : Tree} {directory : Path} {octets : List UInt8} :
    (∃ t', t.write (file directory) octets = .ok t') ↔ Writable t directory :=
  (Tree.write_child_iff (by decide)).trans ⟨fun h => ⟨h.1, h.2⟩, fun h => ⟨h.made, h.free⟩⟩

def octets (b : Bookmarks) : List UInt8 := Document.toOctets (.arr (b.keys.map .str))

theorem ascii_octets (b : Bookmarks) : ∀ o ∈ b.octets, o < 128 :=
  fun _ => Document.ascii_toOctets (readsBack_texts b.keys)

/-- Saving writes the octets of the set where the document can be written, whatever it held. -/
theorem write_of_writable {t : Tree} {directory : Path} (h : Writable t directory) (b : Bookmarks) :
    ∃ t', t.write (file directory) b.octets = .ok t' ∧ save t directory b = (t', none) := by
  obtain ⟨t', hwrite⟩ := writable_iff.2 h
  refine ⟨t', hwrite, ?_⟩
  rw [octets] at hwrite
  simp only [save, saveItems, hwrite]

theorem save_of_writable {t : Tree} {directory : Path} (h : Writable t directory) (b : Bookmarks) :
    ∃ t', save t directory b = (t', none) ∧ t'.at? directory = some .directory ∧
      Stored t' directory b.keys := by
  obtain ⟨t', hwrite, hsave⟩ := write_of_writable h b
  exact ⟨t', hsave, Tree.at?_directory_of_keeps (Tree.keepsDirectories_write hwrite) h.made,
    stored_of_write hwrite⟩

/-- The document can be written again after it was written. -/
theorem writable_of_write {t t' : Tree} {directory : Path} {octets : List UInt8}
    (hwrite : t.write (file directory) octets = .ok t') : Writable t' directory := by
  have h : Writable t directory := writable_iff.1 ⟨t', hwrite⟩
  refine ⟨Tree.at?_directory_of_keeps (Tree.keepsDirectories_write hwrite) h.made, ?_⟩
  simp [Tree.at?_of_write hwrite]

/-- Where the document cannot be written, saving leaves the files as they are and tells so. -/
theorem save_of_not_writable {t : Tree} {directory : Path} (h : ¬ Writable t directory)
    (b : Bookmarks) : ∃ f, save t directory b = (t, some (.unsaved f)) := by
  unfold save saveItems
  cases hwrite : t.write (file directory) (Document.toOctets (.arr (b.keys.map .str))) with
  | ok t' => exact absurd (writable_iff.1 ⟨t', hwrite⟩) h
  | error f => exact ⟨f, rfl⟩

/-- **A set is saved where one is stored, and is stored then.** -/
theorem save_of_stored {t : Tree} {directory : Path} {keys : List Text}
    (hdirectory : t.at? directory = some .directory) (h : Stored t directory keys) (b : Bookmarks) :
    ∃ t', save t directory b = (t', none) ∧ t'.at? directory = some .directory ∧
      Stored t' directory b.keys := by
  have hfile : t.at? (file directory) ≠ some .directory := by
    rcases h with ⟨habsent, -⟩ | ⟨octets, hfile, -⟩
    · simp [habsent]
    · simp [hfile]
  exact save_of_writable ⟨hdirectory, hfile⟩ b

end Compendium.Bookmarks
