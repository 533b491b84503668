import Compendium.Files.Document

/-!
# Bookmarks

A set of entry keys, kept in ascending order and stored as a list of texts in one document. What
cannot be read counts as empty, with a notice; what cannot be written leaves the store as it was,
with a notice. Main statements: toggling a key changes the membership of that key and of no other
(`mem_toggle_iff`), and two sets with the same members are the same (`Bookmarks.ext`).
-/

namespace Compendium

/-- A set of keys in ascending order. -/
structure Bookmarks where
  keys : List Text
  ascending : keys.Pairwise (· < ·)

namespace Bookmarks

/-! ## Sets of keys -/

/-- A key put in its place among ascending keys, unless it is there. -/
def insertKey (key : Text) : List Text → List Text
  | [] => [key]
  | k :: rest =>
    if key < k then key :: k :: rest
    else if key = k then k :: rest
    else k :: insertKey key rest

theorem mem_insertKey {key k : Text} {keys : List Text} :
    k ∈ insertKey key keys ↔ k = key ∨ k ∈ keys := by
  induction keys with
  | nil => simp [insertKey]
  | cons j rest ih =>
    simp only [insertKey]
    split
    · simp
    · split
      · rename_i h
        simp [h]
      · simp only [List.mem_cons, ih]
        grind

theorem pairwise_insertKey (key : Text) {keys : List Text} (h : keys.Pairwise (· < ·)) :
    (insertKey key keys).Pairwise (· < ·) := by
  induction keys with
  | nil => simp [insertKey]
  | cons j rest ih =>
    rw [List.pairwise_cons] at h
    simp only [insertKey]
    split
    · rename_i hlt
      refine List.pairwise_cons.2 ⟨fun k hk => ?_, List.pairwise_cons.2 h⟩
      rcases List.mem_cons.1 hk with rfl | hk
      · exact hlt
      · exact Text.lt_trans hlt (h.1 k hk)
    · split
      · exact List.pairwise_cons.2 h
      · rename_i hlt hne
        refine List.pairwise_cons.2 ⟨fun k hk => ?_, ih h.2⟩
        rcases mem_insertKey.1 hk with rfl | hk
        · exact Text.lt_of_not_lt hlt hne
        · exact h.1 k hk

def empty : Bookmarks := ⟨[], List.Pairwise.nil⟩

def insert (b : Bookmarks) (key : Text) : Bookmarks :=
  ⟨insertKey key b.keys, pairwise_insertKey key b.ascending⟩

def erase (b : Bookmarks) (key : Text) : Bookmarks :=
  ⟨b.keys.filter (· ≠ key), b.ascending.filter _⟩

def ofList (keys : List Text) : Bookmarks := keys.foldl insert empty

def has (b : Bookmarks) (key : Text) : Bool := key ∈ b.keys

/-- The keys that consist of characters, as those of entries do. -/
def names (b : Bookmarks) : List String := b.keys.filterMap Text.string?

/-- The set with the key taken out if it is in it, and put in otherwise. -/
def toggle (b : Bookmarks) (key : Text) : Bookmarks :=
  if b.has key then b.erase key else b.insert key

/-! ## The store -/

/-- Something worth telling about the store. -/
inductive Notice where
  | unreadable (f : DocumentFault)
  | notKeys
  | unsaved (f : FileFault)
deriving DecidableEq, Repr

def Notice.message : Notice → String
  | .unreadable f => "Bookmark store unreadable, treating as empty: " ++ f.message
  | .notKeys => "Bookmark store is not a list of keys, treating as empty"
  | .unsaved f => "Could not save bookmarks: " ++ f.message

/-- The document in a data directory that holds the bookmarks. -/
def file (directory : Path) : Path := directory.child "bookmarks.json"

def texts? : List Json → Option (List Text)
  | [] => some []
  | .str s :: rest => (texts? rest).map (s :: ·)
  | _ :: _ => none

def ofDocument : Except DocumentFault Json → Bookmarks × Option Notice
  | .error f => (empty, some (.unreadable f))
  | .ok (.arr items) =>
    match texts? items with
    | some keys => (ofList keys, none)
    | none => (empty, some .notKeys)
  | .ok _ => (empty, some .notKeys)

/-- The stored set. A store that does not exist is empty. -/
def load (t : Tree) (directory : Path) : Bookmarks × Option Notice :=
  match t.octets? (file directory) with
  | none => (empty, none)
  | some octets => ofDocument (Document.ofOctets octets)

def saveItems (t : Tree) (directory : Path) (items : List Json) : Tree × Option Notice :=
  match t.write (file directory) (Document.toOctets (.arr items)) with
  | .ok t' => (t', none)
  | .error f => (t, some (.unsaved f))

def save (t : Tree) (directory : Path) (b : Bookmarks) : Tree × Option Notice :=
  saveItems t directory (b.keys.map .str)

/-! ## Members -/

theorem mem_names_iff {b : Bookmarks} {name : String} : name ∈ b.names ↔ (name : Text) ∈ b.keys := by
  simp [names, Text.string?_eq_some_iff]

theorem mem_insert_iff {b : Bookmarks} {key k : Text} :
    k ∈ (b.insert key).keys ↔ k = key ∨ k ∈ b.keys := mem_insertKey

theorem mem_erase_iff {b : Bookmarks} {key k : Text} :
    k ∈ (b.erase key).keys ↔ k ≠ key ∧ k ∈ b.keys := by
  simp [erase, and_comm]

/-- Toggling a key changes its membership and that of no other key. -/
theorem mem_toggle_iff {b : Bookmarks} {key k : Text} :
    k ∈ (b.toggle key).keys ↔ (k ∈ b.keys ↔ k ≠ key) := by
  unfold toggle has
  split
  · rw [mem_erase_iff]
    grind
  · rw [mem_insert_iff]
    grind

theorem mem_foldl_insert_iff {keys : List Text} {b : Bookmarks} {k : Text} :
    k ∈ (keys.foldl insert b).keys ↔ k ∈ b.keys ∨ k ∈ keys := by
  induction keys generalizing b with
  | nil => simp
  | cons j rest ih =>
    rw [List.foldl_cons, ih, mem_insert_iff, List.mem_cons]
    grind

theorem mem_ofList_iff {keys : List Text} {k : Text} : k ∈ (ofList keys).keys ↔ k ∈ keys :=
  mem_foldl_insert_iff.trans (by simp [empty])

/-- Two ascending lists with the same members are the same. -/
theorem eq_of_mem_iff {a b : List Text} (ha : a.Pairwise (· < ·)) (hb : b.Pairwise (· < ·))
    (h : ∀ k, k ∈ a ↔ k ∈ b) : a = b := by
  induction a generalizing b with
  | nil => exact (List.eq_nil_iff_forall_not_mem.2 fun k hk => by simpa using (h k).2 hk).symm
  | cons x rest ih =>
    cases b with
    | nil => simpa using (h x).1 (List.mem_cons_self ..)
    | cons y rest' =>
      rw [List.pairwise_cons] at ha hb
      have hxy : x = y := by
        rcases List.mem_cons.1 ((h x).1 (List.mem_cons_self ..)) with he | hx
        · exact he
        · rcases List.mem_cons.1 ((h y).2 (List.mem_cons_self ..)) with he | hy
          · exact he.symm
          · exact absurd (Text.lt_trans (ha.1 y hy) (hb.1 x hx)) (Text.lt_irrefl x)
      subst hxy
      have hrest : ∀ k, k ∈ rest ↔ k ∈ rest' := fun k => by
        have hk := h k
        simp only [List.mem_cons] at hk
        have hx : x ∉ rest := fun hm => Text.lt_irrefl x (ha.1 x hm)
        have hx' : x ∉ rest' := fun hm => Text.lt_irrefl x (hb.1 x hm)
        grind
      rw [ih ha.2 hb.2 hrest]

/-- Two sets with the same members are the same. -/
theorem ext {a b : Bookmarks} (h : ∀ k, k ∈ a.keys ↔ k ∈ b.keys) : a = b := by
  obtain ⟨as, ha⟩ := a
  obtain ⟨bs, hb⟩ := b
  have he : as = bs := eq_of_mem_iff ha hb h
  subst he
  rfl

end Bookmarks

end Compendium
