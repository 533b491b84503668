import Compendium.Proofs.Bookmarks.Sorting
import Compendium.Proofs.Bookmarks.Store
import Compendium.Proofs.Session.Frames
import Mathlib.Data.Finset.Dedup
import Mathlib.Data.Finset.Insert

/-!
# Saving a set of keys

The keys of a set may be given in any order. They are sorted before they are written (`sort?_texts`),
so the order makes no difference to the octets, which are ASCII, and loading gives the set again.
Main theorem `saved_keys_are_loaded`.
-/

namespace Compendium.Session

/-! ## Saving what a value consists of -/

/-- The value consists of just these keys, each of them once. -/
def ConsistsOf (v : Json) (keys : Finset Text) : Prop :=
  ∃ members : List Text, membersOf? v = some (members.map .str) ∧ members.Nodup ∧
    members.toFinset = keys

/-- The keys are saved as the set of them, whatever the order in which they are given. -/
theorem saveBookmarksFrom_eq {s : Session} {directory : Path} (h : s.storage = some directory)
    {v : Json} {keys : Finset Text} (hv : ConsistsOf v keys) {b : Bookmarks}
    (hb : b.keys.toFinset = keys) : saveBookmarksFrom v s = saveBookmarks b s := by
  obtain ⟨members, hmembers, hnodup, rfl⟩ := hv
  have hset : Bookmarks.ofList members = b := Bookmarks.ext fun k => by
    rw [Bookmarks.mem_ofList_iff, ← List.mem_toFinset, ← hb, List.mem_toFinset]
  unfold saveBookmarksFrom
  rw [Activity.bind_eq_next (dataDirectory_eq h), hmembers, Option.bind_some,
    Bookmarks.sort?_texts hnodup, hset]
  rfl

/-- What the document holds is loaded. -/
theorem loadBookmarks_of_octets {s : Session} {directory : Path} (h : s.storage = some directory)
    {tree : Tree} {b : Bookmarks}
    (hfile : tree.at? (Bookmarks.file directory) = some (.file b.octets)) :
    loadBookmarks { s with tree := tree } = ⟨.ok b, { s with tree := tree }, []⟩ := by
  have hload : Bookmarks.load tree directory = (b, none) :=
    Bookmarks.load_of_stored (Bookmarks.stored_of_octets hfile)
  have hloaded := @loadBookmarks_eq { s with tree := tree } directory h
  simp only [hload] at hloaded
  exact hloaded

theorem saveBookmarks_of_write {s : Session} {directory : Path} {tree : Tree} {b : Bookmarks}
    (h : s.storage = some directory)
    (hwrite : s.tree.write (Bookmarks.file directory) b.octets = .ok tree) :
    saveBookmarks b s = ⟨.ok (), { s with tree := tree }, []⟩ := by
  rw [Bookmarks.octets] at hwrite
  rw [saveBookmarks, saveBookmarkItems_eq h]
  simp only [Bookmarks.saveItems, hwrite, Option.map_none, Option.toList_none]

/-- A set that is saved where the document can be written is the set that is loaded then. -/
theorem saveBookmarks_of_writable {s : Session} {directory : Path} (h : s.storage = some directory)
    (hwritable : Bookmarks.Writable s.tree directory) (b : Bookmarks) :
    ∃ tree, saveBookmarks b s = ⟨.ok (), { s with tree := tree }, []⟩ ∧
      tree.octets? (Bookmarks.file directory) = some b.octets ∧
      loadBookmarks { s with tree := tree } = ⟨.ok b, { s with tree := tree }, []⟩ := by
  obtain ⟨tree, hwrite, -⟩ := Bookmarks.write_of_writable hwritable b
  refine ⟨tree, saveBookmarks_of_write h hwrite, ?_, ?_⟩
  · simp only [Tree.octets?, Tree.at?_of_write hwrite]
  · exact loadBookmarks_of_octets h (Tree.at?_of_write hwrite)

/-- **The keys that were saved are the keys that are loaded.** The octets are ASCII and depend on
nothing but the set of keys: neither on the order in which they are given nor on the session. -/
theorem saved_keys_are_loaded (keys : Finset Text) : ∃ octets : List UInt8,
    (∀ o ∈ octets, o < 128) ∧ ∀ (s : Session) (directory : Path) (v : Json),
      s.storage = some directory → Bookmarks.Writable s.tree directory → ConsistsOf v keys →
      ∃ tree b, saveBookmarksFrom v s = ⟨.ok (), { s with tree := tree }, []⟩ ∧
        tree.octets? (Bookmarks.file directory) = some octets ∧
        loadBookmarks { s with tree := tree } = ⟨.ok b, { s with tree := tree }, []⟩ ∧
        b.keys.toFinset = keys := by
  obtain ⟨b, hb⟩ : ∃ b : Bookmarks, b.keys.toFinset = keys := by
    refine ⟨Bookmarks.ofList keys.toList, ?_⟩
    ext k
    rw [List.mem_toFinset, Bookmarks.mem_ofList_iff, Finset.mem_toList]
  refine ⟨b.octets, b.ascii_octets, fun s directory v h hwritable hv => ?_⟩
  obtain ⟨tree, hsave, hoctets, hload⟩ := saveBookmarks_of_writable h hwritable b
  exact ⟨tree, b, (saveBookmarksFrom_eq h hv hb).trans hsave, hoctets, hload, hb⟩

/-- Three keys that are written with escapes, in two orders. -/
theorem saved_keys_are_loaded_escaped :
    let keys : Finset Text := {.chars "spell:\"Light\"", .chars "item:a\nb", .chars "monster:😀"}
    let there : Json := .arr [.str "spell:\"Light\"", .str "item:a\nb", .str "monster:😀"]
    let back : Json := .arr [.str "monster:😀", .str "item:a\nb", .str "spell:\"Light\""]
    ∃ octets, (∀ o ∈ octets, o < 128) ∧ ∀ v ∈ [there, back], ∃ tree b,
      saveBookmarksFrom v emptied = ⟨.ok (), { emptied with tree := tree }, []⟩ ∧
        tree.octets? (Bookmarks.file ⟨["data"]⟩) = some octets ∧
        loadBookmarks { emptied with tree := tree } = ⟨.ok b, { emptied with tree := tree }, []⟩ ∧
        b.keys.toFinset = keys := by
  intro keys there back
  obtain ⟨octets, hascii, hsaved⟩ := saved_keys_are_loaded keys
  have hstorage : emptied.storage = some ⟨["data"]⟩ := rfl
  have hwritable : Bookmarks.Writable emptied.tree ⟨["data"]⟩ := ⟨by decide, by decide⟩
  have hthere : ConsistsOf there keys :=
    ⟨["spell:\"Light\"", "item:a\nb", "monster:😀"], rfl, by decide, by decide⟩
  have hback : ConsistsOf back keys :=
    ⟨["monster:😀", "item:a\nb", "spell:\"Light\""], rfl, by decide, by decide⟩
  refine ⟨octets, hascii, fun v hv => ?_⟩
  rcases List.mem_pair.1 hv with rfl | rfl
  · exact hsaved emptied _ there hstorage hwritable hthere
  · exact hsaved emptied _ back hstorage hwritable hback

end Compendium.Session
