import Compendium.Search
import Mathlib.Data.List.Sort
import Mathlib.Data.List.FinRange

/-!
# What a search finds, place by place

A catalog may list an entry twice, so what a search finds is a list of places in the catalog and
not a set of entries. `Found` says of one entry that the category, the filters and the free text
of a query let it through. Main theorem `search_places`: a search gives every place at which a
found entry stands, once, in ascending order of the sort key, and entries of one name in catalog
order; and it gives the same when nothing is skipped (`narrow_eq`).
-/

namespace Compendium

/-! ## Sort keys -/

namespace SortKey

theorem le_iff (a b : SortKey) :
    a.le b = true ↔ a.folded < b.folded ∨ a.folded = b.folded ∧ a.name ≤ b.name := by
  simp only [le, Bool.or_eq_true, Bool.and_eq_true, decide_eq_true_eq, Bool.not_eq_true',
    decide_eq_false_iff_not, String.not_lt]

theorem le_trans (a b c : SortKey) (hab : a.le b = true) (hbc : b.le c = true) :
    a.le c = true := by
  rw [le_iff] at hab hbc ⊢
  rcases hab with hab | ⟨hab, hab'⟩
  · rcases hbc with hbc | ⟨hbc, -⟩
    · exact Or.inl (String.lt_trans hab hbc)
    · exact Or.inl (hbc ▸ hab)
  · rcases hbc with hbc | ⟨hbc, hbc'⟩
    · exact Or.inl (hab ▸ hbc)
    · exact Or.inr ⟨hab.trans hbc, String.le_trans hab' hbc'⟩

theorem le_total (a b : SortKey) : (a.le b || b.le a) = true := by
  rw [Bool.or_eq_true, le_iff, le_iff]
  by_cases hlt : a.folded < b.folded
  · exact Or.inl (Or.inl hlt)
  · by_cases hgt : b.folded < a.folded
    · exact Or.inr (Or.inl hgt)
    · have heq : a.folded = b.folded :=
        String.le_antisymm (String.not_lt.1 hgt) (String.not_lt.1 hlt)
      rcases String.le_total a.name b.name with hn | hn
      · exact Or.inl (Or.inr ⟨heq, hn⟩)
      · exact Or.inr (Or.inr ⟨heq.symm, hn⟩)

end SortKey

/-! ## Stable sorting by places -/

section
variable {α : Type}

theorem not_sublist_swap {l : List α} {a b : α} (hl : l.Nodup) (hab : [a, b].Sublist l) :
    ¬ [b, a].Sublist l := by
  induction l with
  | nil => simp at hab
  | cons x rest ih =>
    rw [List.nodup_cons] at hl
    intro hba
    cases hab with
    | cons _ hab =>
      cases hba with
      | cons _ hba => exact ih hl.2 hab hba
      | cons_cons _ hba => exact hl.1 (hab.subset (by simp))
    | cons_cons _ hb =>
      cases hba with
      | cons _ hba => exact hl.1 (hba.subset (by simp))
      | cons_cons _ hba => exact hl.1 (hba.subset (by simp))

/-- Sorting places leaves those that compare as equal in ascending order. -/
theorem pairwise_mergeSort_places {n : Nat} {le : Fin n → Fin n → Bool}
    (trans : ∀ i j k, le i j = true → le j k = true → le i k = true)
    (total : ∀ i j, (le i j || le j i) = true) {places : List (Fin n)}
    (ascending : places.Pairwise (· < ·)) :
    (places.mergeSort le).Pairwise fun i j => le i j = true ∧ (le j i = true → i < j) := by
  have nodup : places.Nodup := ascending.imp fun h => ne_of_lt h
  have nodup' : (places.mergeSort le).Nodup := (List.mergeSort_perm _ _).nodup_iff.2 nodup
  have sorted := List.pairwise_mergeSort trans total places
  refine List.pairwise_iff_forall_sublist.2 fun {i j} hij => ⟨sorted.forall_sublist hij, fun hji => ?_⟩
  have hmem : ∀ k, k ∈ [i, j] → k ∈ places := fun k hk =>
    (List.mergeSort_perm _ _).mem_iff.1 (hij.subset hk)
  rcases lt_trichotomy i j with hlt | heq | hgt
  · exact hlt
  · subst heq
    exact absurd hij (List.nodup_iff_sublist.1 nodup' i)
  · -- the other order is that of the places, which sorting keeps
    have hsub : [j, i].Sublist places :=
      List.sublist_of_subperm_of_sortedLE
        (List.subperm_of_subset (by simp [ne_of_lt hgt]) (by simpa [and_comm] using hmem))
        (by simp [List.sortedLE_iff_pairwise, le_of_lt hgt])
        (List.sortedLE_iff_pairwise.2 (ascending.imp fun h => le_of_lt h))
    exact absurd (List.pair_sublist_mergeSort trans total hji hsub) (not_sublist_swap nodup' hij)

end

namespace Catalog

/-! ## The shortcuts -/

theorem occursIn_nil (cs : List Char) : Text.occursIn [] cs = true :=
  Text.occursIn_iff.2 ⟨[], cs, by simp⟩

theorem mentions_empty (e : Entry) : mentions e "" = true := by
  simp [mentions, Text.containsFolded, Text.lowerChars, Text.lowerAfter, occursIn_nil]

/-- Skipping what asks for nothing leaves the same entries as asking everything. -/
theorem narrow_eq (entries : List Entry) (text : String) :
    narrow entries text =
      (entries.filter fun e => Filter.passes e (Query.ofString text).filters).filter fun e =>
        mentions e (Query.ofString text).freeText := by
  unfold narrow
  split
  · rename_i h
    have htext : text = "" := by simpa using h
    simp [htext, Query.ofString_empty, Filter.passes, mentions_empty]
  · have hknown : (if (Query.ofString text).known.isEmpty then entries
        else entries.filter fun e => Filter.passes e (Query.ofString text).filters) =
        entries.filter fun e => Filter.passes e (Query.ofString text).filters := by
      split
      · rename_i h
        simp [passes_of_no_known h]
      · rfl
    simp only [hknown]
    split
    · rename_i h
      have hfree : (Query.ofString text).freeText = "" := by simpa using h
      simp [hfree, mentions_empty]
    · rfl

/-! ## Found entries -/

def BelongsTo (bookmarks : List String) (label : String) (e : Entry) : Prop :=
  if label = "all" then True
  else if label = "bookmarks" then e.key ∈ bookmarks
  else e.kind.label = label

/-- The first text occurs in the second, upper and lower case alike. -/
def OccursFolded (text inside : String) : Prop :=
  Text.lowerChars text.toList <:+: Text.lowerChars inside.toList

/-- What a category, the filters and the free text of a query ask of an entry. -/
structure Found (bookmarks : List String) (label : String) (q : Query) (e : Entry) : Prop where
  belongs : BelongsTo bookmarks label e
  filters : ∀ key value, (key, value) ∈ q.filters →
    ∀ f, Filter.ofKey? key = some f → f.accepts e value = true
  text : q.freeText ≠ "" →
    OccursFolded q.freeText e.name ∨ ∃ d, e.description = some d ∧ OccursFolded q.freeText d

theorem ofLabel?_label (c : Category) : Category.ofLabel? c.label = some c := by
  cases c with
  | kind k => cases k <;> rfl
  | _ => rfl

theorem label_of_ofLabel? {label : String} {c : Category} (h : Category.ofLabel? label = some c) :
    c.label = label := by
  simpa using List.find?_some h

theorem holds_label (bookmarks : List String) (c : Category) (e : Entry) :
    c.holds bookmarks e = true ↔ BelongsTo bookmarks c.label e := by
  cases c with
  | all => simp [Category.holds, BelongsTo, Category.label]
  | bookmarks => simp [Category.holds, BelongsTo, Category.label]
  | kind k => cases k <;> cases e <;> simp [Category.holds, BelongsTo, Category.label, Kind.label, Entry.kind]

/-- An entry belongs to no category but those that there are. -/
theorem not_belongsTo {label : String} (h : Category.ofLabel? label = none) (bookmarks : List String)
    (e : Entry) : ¬ BelongsTo bookmarks label e := by
  have hne : ∀ c : Category, c.label ≠ label := by
    intro c hc
    rw [← hc, ofLabel?_label] at h
    simp at h
  have hall : label ≠ "all" := Ne.symm (hne .all)
  have hbookmarks : label ≠ "bookmarks" := Ne.symm (hne .bookmarks)
  simp only [BelongsTo, hall, hbookmarks, if_false]
  exact hne (.kind e.kind)

/-- The category of that label holds the entry. -/
def inCategory (bookmarks : List String) (label : String) (e : Entry) : Bool :=
  (Category.ofLabel? label).any fun c => c.holds bookmarks e

theorem inCategory_iff {bookmarks : List String} {label : String} {e : Entry} :
    inCategory bookmarks label e = true ↔ BelongsTo bookmarks label e := by
  unfold inCategory
  cases h : Category.ofLabel? label with
  | none => simpa using not_belongsTo h bookmarks e
  | some c => rw [Option.any_some, holds_label, label_of_ofLabel? h]

theorem selectLabel_eq (catalog : Catalog) (bookmarks : List String) (label : String) :
    catalog.selectLabel bookmarks label = List.filter (inCategory bookmarks label) catalog := by
  unfold selectLabel inCategory
  cases Category.ofLabel? label with
  | none => simp
  | some c => rfl

theorem selectLabel_all (catalog : Catalog) (bookmarks : List String) :
    catalog.selectLabel bookmarks "all" = catalog :=
  List.filter_eq_self.2 fun _ _ => rfl

/-- The category, the filters and the free text let the entry through. -/
def isFound (bookmarks : List String) (label : String) (q : Query) (e : Entry) : Bool :=
  inCategory bookmarks label e && (Filter.passes e q.filters && mentions e q.freeText)

theorem passes_iff {e : Entry} {filters : List (String × String)} :
    Filter.passes e filters = true ↔ ∀ key value, (key, value) ∈ filters →
      ∀ f, Filter.ofKey? key = some f → f.accepts e value = true := by
  simp only [Filter.passes, List.all_eq_true, Prod.forall]
  refine forall₂_congr fun key value => imp_congr_right fun _ => ?_
  simp only [Filter.passesOne]
  cases Filter.ofKey? key with
  | none => simp
  | some f => simp

theorem containsFolded_iff {inside text : String} :
    Text.containsFolded inside text = true ↔ OccursFolded text inside := by
  rw [Text.containsFolded, Text.occursIn_iff, OccursFolded]
  exact exists₂_congr fun _ _ => eq_comm

theorem mentions_iff {e : Entry} {text : String} :
    mentions e text = true ↔
      OccursFolded text e.name ∨ ∃ d, e.description = some d ∧ OccursFolded text d := by
  rw [mentions, Bool.or_eq_true, containsFolded_iff]
  cases e.description with
  | none => simp [Text.containsFolded?]
  | some d => simp [Text.containsFolded?, containsFolded_iff]

theorem isFound_iff {bookmarks : List String} {label : String} {q : Query} {e : Entry} :
    isFound bookmarks label q e = true ↔ Found bookmarks label q e := by
  simp only [isFound, Bool.and_eq_true, inCategory_iff, passes_iff]
  constructor
  · rintro ⟨hb, hf, ht⟩
    exact ⟨hb, hf, fun _ => mentions_iff.1 ht⟩
  · rintro ⟨hb, hf, ht⟩
    refine ⟨hb, hf, ?_⟩
    by_cases h : q.freeText = ""
    · rw [h, mentions_empty]
    · exact mentions_iff.2 (ht h)

theorem search_eq (catalog : Catalog) (bookmarks : List String) (label text : String) :
    catalog.search bookmarks label text =
      sortEntries (List.filter (isFound bookmarks label (Query.ofString text)) catalog) := by
  rw [search, narrow_eq, selectLabel_eq, List.filter_filter, List.filter_filter]
  congr 2
  funext e
  simp only [isFound, Bool.and_comm]

/-! ## Places -/

/-- The entry at the first place sorts before that at the second: by the folded name and then by
the name itself, and entries of one name by their places. -/
def Before (catalog : Catalog) (i j : Fin catalog.length) : Prop :=
  let a := (catalog.get i).sortKey
  let b := (catalog.get j).sortKey
  (a.folded < b.folded ∨ a.folded = b.folded ∧ a.name ≤ b.name) ∧
    ((catalog.get i).name = (catalog.get j).name → i < j)

/-- The places at which the entries stand that a search finds, in the order in which it gives them. -/
def places (catalog : Catalog) (bookmarks : List String) (label : String) (q : Query) :
    List (Fin catalog.length) :=
  ((List.finRange catalog.length).filter fun i => isFound bookmarks label q (catalog.get i)).mergeSort
    fun i j => (catalog.get i).sortKey.le (catalog.get j).sortKey

theorem mem_places {catalog : Catalog} {bookmarks : List String} {label : String} {q : Query}
    {i : Fin catalog.length} :
    i ∈ places catalog bookmarks label q ↔ Found bookmarks label q (catalog.get i) := by
  rw [places, (List.mergeSort_perm _ _).mem_iff, List.mem_filter, isFound_iff]
  simp [List.mem_finRange]

/-- The entries at the places whose entries have a property are those that have it. -/
theorem map_get_filter (catalog : Catalog) (p : Entry → Bool) :
    ((List.finRange catalog.length).filter fun i => p (catalog.get i)).map catalog.get =
      List.filter p catalog := by
  have hall : (List.finRange catalog.length).map catalog.get = catalog := List.map_get_finRange catalog
  conv_rhs => rw [← hall, List.filter_map]
  rfl

theorem map_places (catalog : Catalog) (bookmarks : List String) (label : String) (q : Query) :
    (places catalog bookmarks label q).map catalog.get =
      sortEntries (List.filter (isFound bookmarks label q) catalog) := by
  rw [← map_get_filter]
  exact List.map_mergeSort (f := catalog.get) fun _ _ _ _ => rfl

theorem pairwise_places (catalog : Catalog) (bookmarks : List String) (label : String) (q : Query) :
    (places catalog bookmarks label q).Pairwise (Before catalog) := by
  have ascending : ((List.finRange catalog.length).filter fun i =>
      isFound bookmarks label q (catalog.get i)).Pairwise (· < ·) :=
    (List.pairwise_lt_finRange _).filter _
  have sorted := pairwise_mergeSort_places
    (fun i j k => SortKey.le_trans (catalog.get i).sortKey (catalog.get j).sortKey (catalog.get k).sortKey)
    (fun i j => SortKey.le_total (catalog.get i).sortKey (catalog.get j).sortKey) ascending
  refine sorted.imp fun {i j} h => ⟨(SortKey.le_iff _ _).1 h.1, fun hname => h.2 ?_⟩
  rw [SortKey.le_iff, Entry.sortKey, Entry.sortKey, hname]
  exact Or.inr ⟨rfl, String.le_refl _⟩

/-- **What a search finds.** The places of a search are those of the found entries, each once,
ascending by sort key and stable; and the shortcuts of a search leave its result as it is. -/
theorem search_places (catalog : Catalog) (bookmarks : List String) (label text : String) :
    (∃ found : List (Fin catalog.length),
      catalog.search bookmarks label text = found.map catalog.get ∧
      found.Nodup ∧
      (∀ i, i ∈ found ↔ Found bookmarks label (Query.ofString text) (catalog.get i)) ∧
      found.Pairwise (Before catalog)) ∧
    catalog.search bookmarks label text =
      sortEntries (((catalog.selectLabel bookmarks label).filter fun e =>
        Filter.passes e (Query.ofString text).filters).filter fun e =>
          mentions e (Query.ofString text).freeText) := by
  have hsearch := search_eq catalog bookmarks label text
  refine ⟨⟨places catalog bookmarks label (Query.ofString text), ?_, ?_, fun i => mem_places, ?_⟩, ?_⟩
  · rw [hsearch, map_places]
  · have nodup := (List.nodup_finRange catalog.length).filter fun i =>
      isFound bookmarks label (Query.ofString text) (catalog.get i)
    exact (List.mergeSort_perm _ _).nodup_iff.2 nodup
  · exact pairwise_places catalog bookmarks label _
  · rw [search, narrow_eq]

end Catalog

end Compendium
