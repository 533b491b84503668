import Compendium.Catalog.Bundled
import Compendium.Proofs.Query.Chains
import Compendium.Proofs.Search.Places
import Compendium.Proofs.Text.Lowering

/-!
# Filters by a value of the entry itself

A search for a key and a value that is one of the entry's own under that key finds the entry, so long
as the two sides of the filter take upper and lower case alike. They do for classes, types,
alignments and sources. A tier or a level is compared as it is, and the value of a query is always
in lower case. Main theorem `search_own_value_iff`: the entry is found just when its value is in
lower case or the filter is none of these two.
-/

namespace Compendium

namespace Filter

/-- The texts of what the filter asks about, as the entry has it. -/
def ownValues (f : Filter) (e : Entry) : List String :=
  match f, e with
  | .tier, .spell s => (s.tier.map Scalar.label).toList
  | .level, .creature c => (c.level.map Scalar.label).toList
  | .castingClass, .spell s => s.classes.getD []
  | .itemType, .item i => i.itemType.toList
  | .alignment, .creature c => c.alignment.toList
  | .source, e => e.source.toList
  | _, _ => []

/-- The filter compares values as they are, upper and lower case apart. -/
def isExact (f : Filter) : Bool := f = .tier || f = .level

/-- The keys of filters are words in lower case. -/
theorem word_of_ofKey? {key : String} {f : Filter} (h : ofKey? key = some f) :
    Query.IsWordText key.toList ∧ Text.lower key = key := by
  unfold ofKey? at h
  split at h
  case h_8 => simp at h
  all_goals exact ⟨by decide, by decide⟩

end Filter

namespace Text

theorem containsFolded_lower (s : String) : containsFolded s (lower s) = true := by
  rw [containsFolded, lower, String.toList_ofList, lowerChars_lowerChars, occursIn_iff]
  exact ⟨[], [], by simp⟩

end Text

namespace Filter

theorem labelIs_lower {scalar : Option Scalar} {text : String}
    (h : text ∈ (scalar.map Scalar.label).toList) :
    labelIs scalar (Text.lower text) = true ↔ Text.lower text = text := by
  simp only [Option.mem_toList, Option.map_eq_some_iff] at h
  obtain ⟨s, rfl, rfl⟩ := h
  simp [labelIs, eq_comm]

theorem containsFolded?_lower {held : Option String} {text : String} (h : text ∈ held.toList) :
    Text.containsFolded? held (Text.lower text) = true := by
  rw [Option.mem_toList] at h
  simp [h, Text.containsFolded?, Text.containsFolded_lower]

/-- An entry passes a filter by one of its own values in lower case, unless the filter compares
values as they are and this one is not in lower case. -/
theorem accepts_lower_iff {f : Filter} {e : Entry} {text : String} (h : text ∈ f.ownValues e) :
    f.accepts e (Text.lower text) = true ↔ (f.isExact = true → Text.lower text = text) := by
  cases f with
  | tier =>
    cases e with
    | spell s => simpa [accepts, isExact] using labelIs_lower h
    | _ => simp [ownValues] at h
  | level =>
    cases e with
    | creature c => simpa [accepts, isExact] using labelIs_lower h
    | _ => simp [ownValues] at h
  | castingClass =>
    cases e with
    | spell s =>
      have hclass : ∃ c ∈ s.classes.getD [], Text.lower c = Text.lower (Text.lower text) :=
        ⟨text, h, (Text.lower_lower text).symm⟩
      simpa [accepts, isExact] using hclass
    | _ => simp [ownValues] at h
  | itemType =>
    cases e with
    | item i => simpa [accepts, isExact] using containsFolded?_lower h
    | _ => simp [ownValues] at h
  | alignment =>
    cases e with
    | creature c => simpa [accepts, isExact] using containsFolded?_lower h
    | _ => simp [ownValues] at h
  | source =>
    have hsource : text ∈ e.source.toList := by simpa [ownValues] using h
    simpa [accepts, isExact] using containsFolded?_lower hsource

end Filter

namespace Catalog

theorem mem_search_token_iff {catalog : Catalog} {bookmarks : List String} {key value : String}
    {f : Filter} (hkey : Filter.ofKey? key = some f) (hvalue : Query.IsWordText value.toList)
    {e : Entry} :
    e ∈ catalog.search bookmarks "all" (key ++ ":" ++ value) ↔
      e ∈ catalog ∧ f.accepts e (Text.lower value) = true := by
  obtain ⟨hword, hlower⟩ := Filter.word_of_ofKey? hkey
  rw [mem_search_iff, selectLabel_all, Query.ofString_token hword hvalue, hlower]
  simp [Filter.passes_singleton hkey]

/-- **When an entry is found by one of its own values**: always, but for a tier or a level that is not
in lower case. -/
theorem search_own_value_iff (catalog : Catalog) (bookmarks : List String) {e : Entry}
    (he : e ∈ catalog) {key : String} {f : Filter} (hkey : Filter.ofKey? key = some f)
    {text : String} (howns : text ∈ f.ownValues e) (hword : Query.IsWordText text.toList) :
    e ∈ catalog.search bookmarks "all" (key ++ ":" ++ text) ↔
      (f.isExact = true → Text.lower text = text) := by
  rw [mem_search_token_iff hkey hword, Filter.accepts_lower_iff howns]
  exact and_iff_right he

/-- A class is found whatever its capitals. -/
theorem search_own_value_wizard :
    .spell Bundled.light ∈ bundled ∧ Filter.ofKey? "class" = some .castingClass ∧
      "Wizard" ∈ Filter.ownValues .castingClass (.spell Bundled.light) ∧
      Query.IsWordText "Wizard".toList ∧
      .spell Bundled.light ∈ bundled.search [] "all" ("class" ++ ":" ++ "Wizard") := by
  have hmem : .spell Bundled.light ∈ bundled := by decide
  have howns : "Wizard" ∈ Filter.ownValues .castingClass (.spell Bundled.light) := by decide
  have hword : Query.IsWordText "Wizard".toList := by decide
  refine ⟨hmem, rfl, howns, hword, ?_⟩
  exact (search_own_value_iff bundled [] hmem rfl howns hword).2 (by decide)

/-- A spell whose tier is a text in capitals. -/
def wishOfTierThree : Entry := .ofFields .spell [("name", .str "Wish"), ("tier", .str "III")]

/-- No search for its tier finds the spell, for the tier in the query is in lower case. -/
theorem tier_in_capitals_not_found :
    "III" ∈ Filter.ownValues .tier wishOfTierThree ∧ Query.IsWordText "III".toList ∧
      wishOfTierThree ∉ search [wishOfTierThree] [] "all" ("tier" ++ ":" ++ "III") := by
  have hword : Query.IsWordText "III".toList := by decide
  refine ⟨by decide, hword, fun hmem => ?_⟩
  have haccepts := ((mem_search_token_iff rfl hword).1 hmem).2
  exact absurd haccepts (by decide)

end Catalog

end Compendium
