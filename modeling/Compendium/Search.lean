import Compendium.Catalog.Basic
import Compendium.Filter
import Compendium.Text.Decomposition

/-!
# Searching

A search takes the entries of a category that pass the filters and hold the free text, and sorts
them by name. Names sort by their base characters, case folded, and then as they are; the sort is
stable, so entries of one name stay in catalog order. Main statement: what is found is what the
category, the filters and the free text let through (`mem_search_iff`).
-/

namespace Compendium

/-- The part of a catalog that a search looks at. -/
inductive Category where
  | all
  | kind (k : Kind)
  | bookmarks
deriving DecidableEq, Repr

namespace Category

/-- The categories, in the order of their tabs. -/
def tabs : List Category := [.all, .kind .creature, .kind .spell, .kind .item, .bookmarks]

def label : Category → String
  | .all => "all"
  | .kind k => k.label
  | .bookmarks => "bookmarks"

def ofLabel? (s : String) : Option Category := tabs.find? fun c => c.label = s

def holds (c : Category) (bookmarks : List String) (e : Entry) : Bool :=
  match c with
  | .all => true
  | .kind k => e.kind = k
  | .bookmarks => e.key ∈ bookmarks

end Category

/-- What entries are sorted by: the folded name, then the name. -/
structure SortKey where
  folded : String
  name : String
deriving DecidableEq, Repr

namespace SortKey

def ofName (name : String) : SortKey :=
  ⟨String.ofList (Text.foldChars (Text.baseChars name.toList)), name⟩

/-- The first key sorts before the second or is equal to it; texts compare by code points. -/
def le (a b : SortKey) : Bool :=
  decide (a.folded < b.folded) || (a.folded = b.folded && !decide (b.name < a.name))

end SortKey

def Entry.sortKey (e : Entry) : SortKey := .ofName e.name

/-- Entries sorted by name; entries of one name stay in their order. -/
def sortEntries (entries : List Entry) : List Entry :=
  entries.mergeSort fun a b => a.sortKey.le b.sortKey

namespace Catalog

def select (catalog : Catalog) (bookmarks : List String) (c : Category) : List Entry :=
  List.filter (c.holds bookmarks) catalog

/-- The entries of the category of that label; an unknown label selects nothing. -/
def selectLabel (catalog : Catalog) (bookmarks : List String) (label : String) : List Entry :=
  match Category.ofLabel? label with
  | some c => catalog.select bookmarks c
  | none => []

def mentions (e : Entry) (text : String) : Bool :=
  Text.containsFolded e.name text || Text.containsFolded? e.description text

/-- The entries that a search text lets through. What asks for nothing is not asked. -/
def narrow (entries : List Entry) (text : String) : List Entry :=
  if text.isEmpty then entries
  else
    let q := Query.ofString text
    let filtered :=
      if q.known.isEmpty then entries else entries.filter fun e => Filter.passes e q.filters
    if q.freeText.isEmpty then filtered else filtered.filter fun e => mentions e q.freeText

/-- The entries of a category that a search text lets through, sorted by name. -/
def search (catalog : Catalog) (bookmarks : List String) (label text : String) : List Entry :=
  sortEntries (narrow (catalog.selectLabel bookmarks label) text)

def counts (catalog : Catalog) (bookmarks : List String) : List (String × Nat) :=
  Category.tabs.map fun c => (c.label, (catalog.select bookmarks c).length)

/-! ## What is found -/

theorem passes_of_no_known {q : Query} (h : q.known.isEmpty = true) (e : Entry) :
    Filter.passes e q.filters = true := by
  simp only [Query.known, List.isEmpty_iff, List.filter_eq_nil_iff] at h
  simp only [Filter.passes, List.all_eq_true]
  intro f hf
  have hk := h f hf
  simp only [Filter.isKnown, Bool.not_eq_true, Option.isSome_eq_false_iff,
    Option.isNone_iff_eq_none] at hk
  simp [Filter.passesOne, hk]

theorem mem_narrow_iff {entries : List Entry} {text : String} {e : Entry} :
    e ∈ narrow entries text ↔
      e ∈ entries ∧ Filter.passes e (Query.ofString text).filters = true ∧
        ((Query.ofString text).freeText ≠ "" → mentions e (Query.ofString text).freeText = true) := by
  unfold narrow
  split
  · rename_i h
    have : text = "" := by simpa using h
    subst this
    simp [Query.ofString_empty, Filter.passes]
  · by_cases hk : (Query.ofString text).known.isEmpty = true <;>
      by_cases hf : (Query.ofString text).freeText.isEmpty = true
    · have hf' : (Query.ofString text).freeText = "" := by simpa using hf
      simp [hk, hf', passes_of_no_known hk]
    · have hf' : (Query.ofString text).freeText ≠ "" := by simpa using hf
      simp [hk, hf', passes_of_no_known hk]
    · have hf' : (Query.ofString text).freeText = "" := by simpa using hf
      simp [hk, hf']
    · have hf' : (Query.ofString text).freeText ≠ "" := by simpa using hf
      simp [hk, hf', and_comm]

/-- What is found is what the category, the filters and the free text let through. -/
theorem mem_search_iff {catalog : Catalog} {bookmarks : List String} {label text : String}
    {e : Entry} :
    e ∈ catalog.search bookmarks label text ↔
      e ∈ catalog.selectLabel bookmarks label ∧
        Filter.passes e (Query.ofString text).filters = true ∧
        ((Query.ofString text).freeText ≠ "" → mentions e (Query.ofString text).freeText = true) := by
  rw [search, sortEntries, (List.mergeSort_perm _ _).mem_iff, mem_narrow_iff]

end Catalog

end Compendium
