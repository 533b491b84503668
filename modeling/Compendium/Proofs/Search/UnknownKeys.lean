import Compendium.Catalog.Bundled
import Compendium.Proofs.Query.Joining
import Compendium.Proofs.Search.Narrowing

/-!
# Filters with unknown keys

What a search finds depends on the known filters of its text and on the free text, and on nothing else
(`search_congr`). So a text of unknown filters that is put in front of a search text or behind it
makes no difference (`search_joined_unknown`), and a filter with a known key does make one, for an
entry without any fields passes none (`not_accepts_bare`). Main theorem `search_token_iff`: a filter
in front or behind changes no search just when its key, in lower case, is unknown.
-/

namespace Compendium

namespace Catalog

/-! ## What a search depends on -/

/-- Queries with the same known filters and the same free text find the same entries. -/
theorem found_congr {q r : Query} (hfree : q.freeText = r.freeText)
    (hfilters : ∀ key value, Filter.isKnown key = true →
      ((key, value) ∈ q.filters ↔ (key, value) ∈ r.filters))
    {bookmarks : List String} {label : String} {e : Entry} :
    Found bookmarks label q e ↔ Found bookmarks label r e := by
  constructor
  · rintro ⟨hbelongs, hpasses, htext⟩
    refine ⟨hbelongs, fun key value hmem f hf => ?_, hfree ▸ htext⟩
    exact hpasses key value ((hfilters key value (isKnown_of_ofKey? hf)).2 hmem) f hf
  · rintro ⟨hbelongs, hpasses, htext⟩
    refine ⟨hbelongs, fun key value hmem f hf => ?_, hfree ▸ htext⟩
    exact hpasses key value ((hfilters key value (isKnown_of_ofKey? hf)).1 hmem) f hf

/-- Search texts with the same known filters and the same free text give the same list. -/
theorem search_congr {text text' : String}
    (hfree : (Query.ofString text).freeText = (Query.ofString text').freeText)
    (hfilters : ∀ key, Filter.isKnown key = true →
      Fields.get? (Query.ofString text).filters key = Fields.get? (Query.ofString text').filters key)
    (catalog : Catalog) (bookmarks : List String) (label : String) :
    catalog.search bookmarks label text = catalog.search bookmarks label text' := by
  have hmem : ∀ key value, Filter.isKnown key = true →
      ((key, value) ∈ (Query.ofString text).filters ↔
        (key, value) ∈ (Query.ofString text').filters) := by
    intro key value hknown
    rw [mem_filters_iff, mem_filters_iff, hfilters key hknown]
  have hfound : isFound bookmarks label (Query.ofString text) =
      isFound bookmarks label (Query.ofString text') := by
    funext e
    rw [Bool.eq_iff_iff, isFound_iff, isFound_iff, found_congr hfree hmem]
  rw [search_eq, search_eq, hfound]

/-! ## Unknown filters -/

theorem get?_filters_of_no_known {r key : String} (h : (Query.ofString r).known = [])
    (hknown : Filter.isKnown key = true) : Fields.get? (Query.ofString r).filters key = none := by
  rw [Fields.get?_eq_none_iff]
  intro hmem
  obtain ⟨f, hf, rfl⟩ := List.mem_map.1 hmem
  exact List.filter_eq_nil_iff.1 h f hf hknown

/-- A text of unknown filters in front of a search text or behind it makes no difference. -/
theorem search_joined_unknown {r : String} (hfree : (Query.ofString r).freeText = "")
    (hknown : (Query.ofString r).known = []) (catalog : Catalog) (bookmarks : List String)
    (label q : String) :
    catalog.search bookmarks label (r ++ " " ++ q) = catalog.search bookmarks label q ∧
      catalog.search bookmarks label (q ++ " " ++ r) = catalog.search bookmarks label q := by
  constructor
  · apply search_congr (Query.freeText_joined_right hfree q)
    intro key hkey
    rw [Query.get?_filters_joined, get?_filters_of_no_known hknown hkey, Option.or_none]
  · apply search_congr (Query.freeText_joined q hfree)
    intro key hkey
    rw [Query.get?_filters_joined, get?_filters_of_no_known hknown hkey, Option.none_or]

/-! ## Known filters -/

/-- An item of which nothing is known. -/
def bareItem : Entry := .ofFields .item []

/-- No filter lets an entry through of which nothing is known. -/
theorem not_accepts_bare (f : Filter) (value : String) : f.accepts bareItem value = false := by
  cases f <;> rfl

theorem mem_search_empty (e : Entry) : e ∈ search [e] [] "all" "" := by
  rw [mem_search_iff, selectLabel_all, Query.ofString_empty]
  simp [Filter.passes]

theorem accepts_of_mem_search_token {key value : String} (hkey : Query.IsWordText key.toList)
    (hvalue : Query.IsWordText value.toList) {f : Filter}
    (hf : Filter.ofKey? (Text.lower key) = some f) {e : Entry}
    (h : e ∈ search [e] [] "all" (key ++ ":" ++ value ++ " " ++ "")) :
    f.accepts e (Text.lower value) = true := by
  have hpasses := (mem_search_iff.1 h).2.1
  rw [Query.ofString_token_joined hkey hvalue, Query.ofString_empty] at hpasses
  rwa [Fields.putAll, List.foldl_nil, Filter.passes_singleton hf] at hpasses

/-- **A filter in front of a search text or behind it makes no difference, whatever the text, just
when its key is unknown.** -/
theorem search_token_iff {key value : String} (hkey : Query.IsWordText key.toList)
    (hvalue : Query.IsWordText value.toList) :
    (∀ (catalog : Catalog) (bookmarks : List String) (label q : String),
      catalog.search bookmarks label (key ++ ":" ++ value ++ " " ++ q) =
          catalog.search bookmarks label q ∧
        catalog.search bookmarks label (q ++ " " ++ (key ++ ":" ++ value)) =
          catalog.search bookmarks label q) ↔
      Filter.isKnown (Text.lower key) = false := by
  have htoken := Query.ofString_token hkey hvalue
  constructor
  · intro h
    rw [Filter.isKnown, Option.isSome_eq_false_iff, Option.isNone_iff_eq_none,
      Option.eq_none_iff_forall_ne_some]
    intro f hf
    have hmem := mem_search_empty bareItem
    rw [← (h [bareItem] [] "all" "").1] at hmem
    have haccepts := accepts_of_mem_search_token hkey hvalue hf hmem
    rw [not_accepts_bare] at haccepts
    exact absurd haccepts (by simp)
  · intro hunknown catalog bookmarks label q
    apply search_joined_unknown
    · rw [htoken]
    · rw [htoken, Query.known, List.filter_cons_of_neg (by simp [hunknown]), List.filter_nil]

/-- There are no schools of magic to filter by, in capitals or not. -/
theorem search_token_school :
    Query.IsWordText "School".toList ∧ Query.IsWordText "abjuration".toList ∧
      Filter.isKnown (Text.lower "School") = false ∧
      bundled.search [] "all" ("School" ++ ":" ++ "abjuration" ++ " " ++ "lv:2 :wolf") =
        bundled.search [] "all" "lv:2 :wolf" ∧
      bundled.search [] "all" ("lv:2 :wolf" ++ " " ++ ("School" ++ ":" ++ "abjuration")) =
        bundled.search [] "all" "lv:2 :wolf" := by
  have hkey : Query.IsWordText "School".toList := by decide
  have hvalue : Query.IsWordText "abjuration".toList := by decide
  have hunknown : Filter.isKnown (Text.lower "School") = false := by decide
  exact ⟨hkey, hvalue, hunknown,
    (search_token_iff hkey hvalue).2 hunknown bundled [] "all" "lv:2 :wolf"⟩

end Catalog

end Compendium
