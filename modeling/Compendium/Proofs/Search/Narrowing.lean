import Compendium.Catalog.Bundled
import Compendium.Proofs.Query.Joining
import Compendium.Proofs.Search.Places

/-!
# Narrower searches

A search in one category finds what the search in all of them finds, taken category by category, and
a search text with more filters finds what both parts of it find; the order stays. All of it comes
from one fact: where the entries that are found are those of another search that have a property, so
are their places, in the same order (`foundPlaces_eq_filter`). Main theorem `search_narrows`.
-/

namespace Compendium.Catalog

/-! ## Places that are found -/

/-- The places in the catalog that a search finds, in the order in which it gives them. -/
def foundPlaces (catalog : Catalog) (bookmarks : List String) (label text : String) :
    List (Fin catalog.length) :=
  places catalog bookmarks label (Query.ofString text)

theorem map_foundPlaces (catalog : Catalog) (bookmarks : List String) (label text : String) :
    (foundPlaces catalog bookmarks label text).map catalog.get =
      catalog.search bookmarks label text := by
  rw [foundPlaces, map_places, search_eq]

theorem mem_foundPlaces {catalog : Catalog} {bookmarks : List String} {label text : String}
    {i : Fin catalog.length} : i ∈ foundPlaces catalog bookmarks label text ↔
      Found bookmarks label (Query.ofString text) (catalog.get i) :=
  mem_places

theorem nodup_foundPlaces (catalog : Catalog) (bookmarks : List String) (label text : String) :
    (foundPlaces catalog bookmarks label text).Nodup := by
  rw [foundPlaces, places, (List.mergeSort_perm _ _).nodup_iff]
  exact (List.nodup_finRange catalog.length).filter _

theorem pairwise_foundPlaces (catalog : Catalog) (bookmarks : List String) (label text : String) :
    (foundPlaces catalog bookmarks label text).Pairwise (Before catalog) :=
  pairwise_places _ _ _ _

theorem before_antisymm {catalog : Catalog} {i j : Fin catalog.length} (hij : Before catalog i j)
    (hji : Before catalog j i) : i = j := by
  have hname : (catalog.get i).name = (catalog.get j).name := by
    rcases hij.1 with hij' | ⟨hfolded, hij'⟩
    · rcases hji.1 with hji' | ⟨hfolded, -⟩
      · exact absurd hji' (String.lt_asymm hij')
      · exact absurd (hfolded ▸ hij') (String.lt_irrefl _)
    · rcases hji.1 with hji' | ⟨-, hji'⟩
      · exact absurd (hfolded ▸ hji') (String.lt_irrefl _)
      · exact String.le_antisymm hij' hji'
  exact absurd (hij.2 hname) (lt_asymm (hji.2 hname.symm))

/-- Where a search finds the entries of another that have a property, it gives their places in the
same order. -/
theorem foundPlaces_eq_filter {catalog : Catalog} {bookmarks : List String}
    {label label' text text' : String} {p : Fin catalog.length → Bool}
    (h : ∀ i, Found bookmarks label' (Query.ofString text') (catalog.get i) ↔
      Found bookmarks label (Query.ofString text) (catalog.get i) ∧ p i = true) :
    foundPlaces catalog bookmarks label' text' = (foundPlaces catalog bookmarks label text).filter p := by
  have hperm : (foundPlaces catalog bookmarks label' text').Perm
      ((foundPlaces catalog bookmarks label text).filter p) := by
    rw [List.perm_ext_iff_of_nodup (nodup_foundPlaces _ _ _ _)
      ((nodup_foundPlaces _ _ _ _).filter p)]
    intro i
    rw [List.mem_filter, mem_foundPlaces, mem_foundPlaces]
    exact h i
  refine List.Perm.eq_of_pairwise (fun i j _ _ => before_antisymm) ?_ ?_ hperm
  · exact pairwise_foundPlaces _ _ _ _
  · exact (pairwise_foundPlaces _ _ _ _).filter p

/-! ## One category -/

theorem found_label_iff {bookmarks : List String} {c : Category} {q : Query} {e : Entry} :
    Found bookmarks c.label q e ↔ Found bookmarks "all" q e ∧ c.holds bookmarks e = true := by
  have hall : BelongsTo bookmarks "all" e := (holds_label bookmarks .all e).1 rfl
  rw [holds_label]
  constructor
  · rintro ⟨hbelongs, hfilters, htext⟩
    exact ⟨⟨hall, hfilters, htext⟩, hbelongs⟩
  · rintro ⟨⟨-, hfilters, htext⟩, hbelongs⟩
    exact ⟨hbelongs, hfilters, htext⟩

/-! ## More filters -/

theorem mem_filters_iff {s key value : String} :
    (key, value) ∈ (Query.ofString s).filters ↔
      Fields.get? (Query.ofString s).filters key = some value :=
  Fields.mem_iff_get? (Fields.nodup_ofAssignments _)

theorem isKnown_of_ofKey? {key : String} {f : Filter} (h : Filter.ofKey? key = some f) :
    Filter.isKnown key = true := by
  rw [Filter.isKnown, h]
  rfl

/-- No filter of the second text that is known has the key of a filter of the first. -/
def KeysApart (q r : String) : Prop :=
  ∀ key ∈ Fields.names (Query.ofString r).known, key ∉ Fields.names (Query.ofString q).filters

theorem found_joined_iff {bookmarks : List String} {label q r : String} {e : Entry}
    (hfree : (Query.ofString r).freeText = "") (hapart : KeysApart q r) :
    Found bookmarks label (Query.ofString (q ++ " " ++ r)) e ↔
      Found bookmarks label (Query.ofString q) e ∧ Found bookmarks label (Query.ofString r) e := by
  constructor
  · rintro ⟨hbelongs, hfilters, htext⟩
    rw [Query.freeText_joined q hfree] at htext
    refine ⟨⟨hbelongs, ?_, htext⟩, ⟨hbelongs, ?_, fun hne => absurd hfree hne⟩⟩
    · intro key value hmem f hf
      apply hfilters key value _ f hf
      have hnone : Fields.get? (Query.ofString r).filters key = none := by
        rw [Fields.get?_eq_none_iff]
        intro hr
        obtain ⟨g, hg, rfl⟩ := List.mem_map.1 hr
        have hknown : g ∈ (Query.ofString r).known := List.mem_filter.2 ⟨hg, isKnown_of_ofKey? hf⟩
        exact hapart g.1 (List.mem_map_of_mem hknown) (List.mem_map_of_mem (f := (·.1)) hmem)
      rw [mem_filters_iff, Query.get?_filters_joined, hnone, Option.none_or, ← mem_filters_iff]
      exact hmem
    · intro key value hmem f hf
      apply hfilters key value _ f hf
      rw [mem_filters_iff, Query.get?_filters_joined, mem_filters_iff.1 hmem, Option.some_or]
  · rintro ⟨⟨hbelongs, hfilters, htext⟩, ⟨-, hfilters', -⟩⟩
    refine ⟨hbelongs, ?_, ?_⟩
    · intro key value hmem f hf
      rw [mem_filters_iff, Query.get?_filters_joined, Option.or_eq_some_iff] at hmem
      rcases hmem with hr | ⟨-, hq⟩
      · exact hfilters' key value (mem_filters_iff.2 hr) f hf
      · exact hfilters key value (mem_filters_iff.2 hq) f hf
    · rw [Query.freeText_joined q hfree]
      exact htext

/-- **What narrower searches find.** A search in one category gives, in the same order, what the
search in all categories gives of it; a search text that is extended by filters with keys of their
own gives, in the same order, what it gives without them and they give by themselves. -/
theorem search_narrows (catalog : Catalog) (bookmarks : List String) (q : String) :
    (∀ label text,
      catalog.search bookmarks label text =
          (foundPlaces catalog bookmarks label text).map catalog.get ∧
        (foundPlaces catalog bookmarks label text).Nodup) ∧
    (∀ k : Kind, foundPlaces catalog bookmarks k.label q =
      (foundPlaces catalog bookmarks "all" q).filter fun i => (catalog.get i).kind = k) ∧
    (foundPlaces catalog bookmarks "bookmarks" q =
      (foundPlaces catalog bookmarks "all" q).filter fun i => (catalog.get i).key ∈ bookmarks) ∧
    ∀ label r, (Query.ofString r).freeText = "" → KeysApart q r →
      foundPlaces catalog bookmarks label (q ++ " " ++ r) =
        (foundPlaces catalog bookmarks label q).filter fun i =>
          i ∈ foundPlaces catalog bookmarks label r := by
  refine ⟨?_, ?_, ?_, ?_⟩
  · intro label text
    exact ⟨(map_foundPlaces _ _ _ _).symm, nodup_foundPlaces _ _ _ _⟩
  · intro k
    apply foundPlaces_eq_filter
    intro i
    exact found_label_iff (c := .kind k)
  · apply foundPlaces_eq_filter
    intro i
    exact found_label_iff (c := .bookmarks)
  · intro label r hfree hapart
    apply foundPlaces_eq_filter
    intro i
    rw [found_joined_iff hfree hapart, decide_eq_true_iff, mem_foundPlaces]

theorem search_narrows_tier :
    (Query.ofString "tier:1").freeText = "" ∧ KeysApart "school:abjuration" "tier:1" ∧
      foundPlaces .bundled [] "all" ("school:abjuration" ++ " " ++ "tier:1") =
        (foundPlaces .bundled [] "all" "school:abjuration").filter fun i =>
          i ∈ foundPlaces .bundled [] "all" "tier:1" := by
  have hcut : Query.ChainCut "school:abjuration".toList
      [.chain ["school".toList, "abjuration".toList]] := by
    refine ⟨by decide, ?_⟩
    simp only [Query.Maximal, Query.EndsChain]
    decide
  have hcut' : Query.ChainCut "tier:1".toList [.chain ["tier".toList, "1".toList]] := by
    refine ⟨by decide, ?_⟩
    simp only [Query.Maximal, Query.EndsChain]
    decide
  have hfree : (Query.ofString "tier:1").freeText = "" := by
    rw [Query.ofString, Query.cut_of_chainCut hcut']
    decide +kernel
  have hapart : KeysApart "school:abjuration" "tier:1" := by
    rw [KeysApart, Query.ofString, Query.ofString, Query.cut_of_chainCut hcut,
      Query.cut_of_chainCut hcut']
    decide +kernel
  exact ⟨hfree, hapart, (search_narrows .bundled [] "school:abjuration").2.2.2 "all" "tier:1" hfree hapart⟩

end Compendium.Catalog
