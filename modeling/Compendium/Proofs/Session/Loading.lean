import Compendium.Proofs.Bookmarks.Store
import Compendium.Proofs.Json.Listings
import Compendium.Proofs.Session.Frames
import Mathlib

/-!
# Loading bookmarks from any file

Octets list some keys if they are UTF-8 text of a list of just these texts (`Lists`), and only such
octets hold bookmarks. So loading gives a set whatever stands in the place of the store and changes
nothing: the listed keys, or no keys with one notice for a file that lists none, or no keys without
a notice where there is no file. Main theorem `bookmarks_always_load`.
-/

namespace Compendium

namespace Bookmarks

/-! ## What octets list -/

/-- The octets are UTF-8 text of a list of just these texts. -/
def Lists (octets : List UInt8) (keys : List Text) : Prop :=
  ∃ cs, octets = Text.Utf8.encode cs ∧ Json.Listing keys cs

theorem lists_iff {octets : List UInt8} {keys : List Text} :
    Lists octets keys ↔ Document.ofOctets octets = .ok (.arr (keys.map .str)) := by
  simp only [Document.ofOctets_eq_ok_iff, Json.read_eq_ok_iff, Json.listing_unifyNewlines, Lists]

theorem eq_map_of_texts? {items : List Json} {keys : List Text} (h : texts? items = some keys) :
    items = keys.map .str := by
  fun_induction texts? items generalizing keys with
  | case1 =>
    obtain rfl := Option.some.inj h
    rfl
  | case2 s rest ih =>
    obtain ⟨keys', hrest, rfl⟩ := Option.map_eq_some_iff.1 h
    rw [ih hrest, List.map_cons]
  | case3 => cases h

/-! ## What is loaded -/

/-- The notice tells that a document was not read as bookmarks. -/
def Notice.TellsUnread (n : Notice) : Prop := n = .notKeys ∨ ∃ f, n = .unreadable f

variable {t : Tree} {directory : Path} {octets : List UInt8}

theorem load_of_lists (hfile : t.at? (file directory) = some (.file octets)) {keys : List Text}
    (h : Lists octets keys) : load t directory = (ofList keys, none) := by
  simp only [load, Tree.octets?, hfile, lists_iff.1 h, ofDocument, texts?_map_str]

theorem load_of_not_lists (hfile : t.at? (file directory) = some (.file octets))
    (h : ∀ keys, ¬ Lists octets keys) :
    ∃ n, load t directory = (empty, some n) ∧ n.TellsUnread := by
  simp only [load, Tree.octets?, hfile]
  cases hread : Document.ofOctets octets with
  | error f => exact ⟨_, rfl, .inr ⟨f, rfl⟩⟩
  | ok v =>
    cases v with
    | arr items =>
      cases hitems : texts? items with
      | none => exact ⟨.notKeys, by simp only [ofDocument, hitems], .inl rfl⟩
      | some keys =>
        rw [eq_map_of_texts? hitems] at hread
        exact absurd (lists_iff.2 hread) (h keys)
    | _ => exact ⟨_, rfl, .inl rfl⟩

theorem load_of_no_file (h : ∀ octets, t.at? (file directory) ≠ some (.file octets)) :
    load t directory = (empty, none) := by
  have hoctets : t.octets? (file directory) = none := by
    unfold Tree.octets?
    split
    · rename_i octets hfile
      exact absurd hfile (h octets)
    · rfl
  simp only [load, hoctets]

end Bookmarks

namespace Session

/-- **Bookmarks are loaded whatever stands in the place of the store.** Nothing is changed. A file
that lists keys gives just these keys; any other file gives none, and one notice that it was not
read; where there is no file there are no keys, and nothing is told. -/
theorem bookmarks_always_load (s : Session) {directory : Path} (h : s.storage = some directory) :
    ∃ b notices, loadBookmarks s = ⟨.ok b, s, notices⟩ ∧
      (∀ octets, s.tree.at? (Bookmarks.file directory) = some (.file octets) →
        (∀ keys, Bookmarks.Lists octets keys → (∀ k, k ∈ b.keys ↔ k ∈ keys) ∧ notices = []) ∧
        ((∀ keys, ¬ Bookmarks.Lists octets keys) →
          b.keys = [] ∧ ∃ n, n.TellsUnread ∧ notices = [.bookmarks n])) ∧
      ((∀ octets, s.tree.at? (Bookmarks.file directory) ≠ some (.file octets)) →
        b.keys = [] ∧ notices = []) := by
  refine ⟨_, _, loadBookmarks_eq h, fun octets hfile => ⟨fun keys hlists => ?_, fun hnone => ?_⟩,
    fun hnone => ?_⟩
  · rw [Bookmarks.load_of_lists hfile hlists]
    exact ⟨fun _ => Bookmarks.mem_ofList_iff, rfl⟩
  · obtain ⟨n, hload, htells⟩ := Bookmarks.load_of_not_lists hfile hnone
    rw [hload]
    exact ⟨rfl, n, htells, rfl⟩
  · rw [Bookmarks.load_of_no_file hnone]
    exact ⟨rfl, rfl⟩

/-- A list of two keys, one of them twice, in a way of writing that nothing here writes. -/
def looseListing : List Char :=
  " [\r\n\"spell:L\\u0069ght\" ,\r\n\t\"item:\\ud83d\\uDE00é\",\"spell:Light\"]\r".toList

theorem bookmarks_always_load_loose :
    let t : Tree := ⟨[(["data"], .directory),
      (["data", "bookmarks.json"], .file (Text.Utf8.encode looseListing))]⟩
    ∃ b, loadBookmarks ⟨t, some ⟨["data"]⟩, none⟩ = ⟨.ok b, ⟨t, some ⟨["data"]⟩, none⟩, []⟩ ∧
      ∀ k, k ∈ b.keys ↔ k ∈ (["spell:Light", "item:😀é", "spell:Light"] : List Text) := by
  intro t
  have hread : Json.read looseListing =
      .ok (.arr [.str "spell:Light", .str "item:😀é", .str "spell:Light"]) := by cbv
  obtain ⟨b, notices, hload, hfile, -⟩ := bookmarks_always_load ⟨t, some ⟨["data"]⟩, none⟩ rfl
  obtain ⟨hkeys, rfl⟩ := (hfile _ rfl).1 ["spell:Light", "item:😀é", "spell:Light"]
    ⟨looseListing, rfl, Json.listing_of_read hread⟩
  exact ⟨b, hload, hkeys⟩

end Session

end Compendium
