import Compendium.Proofs.Catalog.Building
import Compendium.Proofs.Search.Places
import Mathlib.Data.Fintype.Card
import Mathlib.Order.Fin.Basic

/-!
# How the categories divide a catalog

The places of a category are those at which its entries stand, in catalog order. An entry has one
kind, so the three kinds take every place of a catalog once (`existsUnique_kind`), and a catalog
that is built from records lists them one behind the other (`append_kinds`). Main theorem
`kinds_divide_catalog`, with what follows for the number of entries in each category.
-/

namespace Compendium.Catalog

/-! ## Places of a category -/

/-- The places in a catalog at which the entries of a category stand, in catalog order. -/
def categoryPlaces (catalog : Catalog) (bookmarks : List String) (label : String) :
    List (Fin catalog.length) :=
  (List.finRange catalog.length).filter fun i => inCategory bookmarks label (catalog.get i)

theorem map_categoryPlaces (catalog : Catalog) (bookmarks : List String) (label : String) :
    (categoryPlaces catalog bookmarks label).map catalog.get = catalog.selectLabel bookmarks label := by
  rw [categoryPlaces, map_get_filter, selectLabel_eq]

theorem mem_categoryPlaces {catalog : Catalog} {bookmarks : List String} {label : String}
    {i : Fin catalog.length} :
    i ∈ categoryPlaces catalog bookmarks label ↔ BelongsTo bookmarks label (catalog.get i) := by
  rw [categoryPlaces, List.mem_filter, inCategory_iff]
  simp [List.mem_finRange]

theorem ascending_categoryPlaces (catalog : Catalog) (bookmarks : List String) (label : String) :
    (categoryPlaces catalog bookmarks label).Pairwise (· < ·) :=
  (List.pairwise_lt_finRange _).filter _

/-! ## Kinds -/

theorem belongsTo_kind_iff {bookmarks : List String} {k : Kind} {e : Entry} :
    BelongsTo bookmarks k.label e ↔ e.kind = k := by
  have hholds := holds_label bookmarks (.kind k) e
  rw [Category.label] at hholds
  rw [← hholds, Category.holds, decide_eq_true_iff]

theorem existsUnique_kind (catalog : Catalog) (bookmarks : List String) (i : Fin catalog.length) :
    ∃! k : Kind, i ∈ categoryPlaces catalog bookmarks k.label := by
  refine ⟨(catalog.get i).kind, ?_, ?_⟩
  · exact mem_categoryPlaces.2 (belongsTo_kind_iff.2 rfl)
  · intro k hk
    exact (belongsTo_kind_iff.1 (mem_categoryPlaces.1 hk)).symm

theorem selectLabel_kind (catalog : Catalog) (bookmarks : List String) (k : Kind) :
    catalog.selectLabel bookmarks k.label = List.filter (·.kind = k) catalog := by
  rw [selectLabel_eq]
  apply List.filter_congr
  intro e _
  rw [Bool.eq_iff_iff, inCategory_iff, belongsTo_kind_iff, decide_eq_true_iff]

/-- A catalog that is built from records is its creatures, its spells and its items, one behind the
other. -/
theorem append_kinds (c : Collections) (bookmarks : List String) :
    (ofCollections c).selectLabel bookmarks "bestiary" ++
        (ofCollections c).selectLabel bookmarks "spell" ++
        (ofCollections c).selectLabel bookmarks "item" = ofCollections c := by
  have hkind : ∀ k : Kind,
      (ofCollections c).selectLabel bookmarks k.label = entriesOf k (c.ofKind k) := by
    intro k
    rw [selectLabel_kind, filter_kind_ofCollections]
  calc (ofCollections c).selectLabel bookmarks Kind.creature.label ++
          (ofCollections c).selectLabel bookmarks Kind.spell.label ++
          (ofCollections c).selectLabel bookmarks Kind.item.label
      = entriesOf .creature c.creatures ++ entriesOf .spell c.spells ++ entriesOf .item c.items := by
        rw [hkind, hkind, hkind]
        rfl
    _ = ofCollections c := (entries_ofCollections c).symm

/-! ## Numbers -/

theorem length_eq_countP_kinds (catalog : Catalog) :
    catalog.length = List.countP (·.kind = .creature) catalog +
      List.countP (·.kind = .spell) catalog + List.countP (·.kind = .item) catalog := by
  induction catalog with
  | nil => rfl
  | cons e rest ih =>
    simp only [List.length_cons, List.countP_cons]
    cases hkind : e.kind <;> simp <;> omega

theorem length_eq_sum_kinds (catalog : Catalog) (bookmarks : List String) :
    catalog.length = (catalog.selectLabel bookmarks "bestiary").length +
      (catalog.selectLabel bookmarks "spell").length +
      (catalog.selectLabel bookmarks "item").length := by
  have hkind : ∀ k : Kind,
      (catalog.selectLabel bookmarks k.label).length = List.countP (·.kind = k) catalog := by
    intro k
    rw [selectLabel_kind, List.countP_eq_length_filter]
  calc catalog.length
      = (catalog.selectLabel bookmarks Kind.creature.label).length +
          (catalog.selectLabel bookmarks Kind.spell.label).length +
          (catalog.selectLabel bookmarks Kind.item.label).length := by
        rw [hkind, hkind, hkind]
        exact length_eq_countP_kinds catalog
    _ = _ := rfl

theorem counts_eq (catalog : Catalog) (bookmarks : List String) :
    catalog.counts bookmarks = [("all", catalog.length),
      ("bestiary", (catalog.selectLabel bookmarks "bestiary").length),
      ("spell", (catalog.selectLabel bookmarks "spell").length),
      ("item", (catalog.selectLabel bookmarks "item").length),
      ("bookmarks", (catalog.selectLabel bookmarks "bookmarks").length)] := by
  have hall : catalog.select bookmarks .all = catalog := selectLabel_all catalog bookmarks
  calc catalog.counts bookmarks
      = [("all", (catalog.select bookmarks .all).length),
          ("bestiary", (catalog.selectLabel bookmarks "bestiary").length),
          ("spell", (catalog.selectLabel bookmarks "spell").length),
          ("item", (catalog.selectLabel bookmarks "item").length),
          ("bookmarks", (catalog.selectLabel bookmarks "bookmarks").length)] := rfl
    _ = _ := by rw [hall]

/-- As many entries are bookmarked as there are places at which an entry has a bookmarked key. -/
theorem length_bookmarked (catalog : Catalog) (bookmarks : List String) :
    (catalog.selectLabel bookmarks "bookmarks").length =
      (Finset.univ.filter fun i : Fin catalog.length => (catalog.get i).key ∈ bookmarks).card := by
  have hnodup : (categoryPlaces catalog bookmarks "bookmarks").Nodup :=
    (ascending_categoryPlaces _ _ _).imp fun h => ne_of_lt h
  rw [← map_categoryPlaces, List.length_map, ← List.toFinset_card_of_nodup hnodup]
  congr 1
  ext i
  rw [List.mem_toFinset, mem_categoryPlaces, Finset.mem_filter]
  simp [BelongsTo]

/-- **The kinds divide a catalog.** Each category gives the entries at its places, in catalog order,
and every place belongs to exactly one of the three kinds. A catalog that is built from records is
its three kinds one behind the other. So it counts as many entries in all as in the kinds together,
and as bookmarked the places whose entry has a bookmarked key, which are no more. -/
theorem kinds_divide_catalog (catalog : Catalog) (bookmarks : List String) :
    (∀ label, catalog.selectLabel bookmarks label =
          (categoryPlaces catalog bookmarks label).map catalog.get ∧
        (categoryPlaces catalog bookmarks label).Pairwise (· < ·)) ∧
    (∀ i, ∃! k : Kind, i ∈ categoryPlaces catalog bookmarks k.label) ∧
    (∀ c : Collections,
      (ofCollections c).selectLabel bookmarks "bestiary" ++
          (ofCollections c).selectLabel bookmarks "spell" ++
          (ofCollections c).selectLabel bookmarks "item" = ofCollections c) ∧
    ∃ creatures spells items marked,
      creatures = (catalog.selectLabel bookmarks "bestiary").length ∧
      spells = (catalog.selectLabel bookmarks "spell").length ∧
      items = (catalog.selectLabel bookmarks "item").length ∧
      marked = (Finset.univ.filter fun i : Fin catalog.length =>
        (catalog.get i).key ∈ bookmarks).card ∧
      catalog.counts bookmarks = [("all", creatures + spells + items), ("bestiary", creatures),
        ("spell", spells), ("item", items), ("bookmarks", marked)] ∧
      marked ≤ creatures + spells + items := by
  refine ⟨?_, existsUnique_kind catalog bookmarks, fun c => append_kinds c bookmarks, ?_⟩
  · intro label
    exact ⟨(map_categoryPlaces _ _ _).symm, ascending_categoryPlaces _ _ _⟩
  · have hall : catalog.length = _ := length_eq_sum_kinds catalog bookmarks
    refine ⟨_, _, _, _, rfl, rfl, rfl, rfl, ?_, ?_⟩
    · rw [← hall, ← length_bookmarked, counts_eq]
    · rw [← hall]
      calc (Finset.univ.filter fun i : Fin catalog.length => (catalog.get i).key ∈ bookmarks).card
          ≤ (Finset.univ : Finset (Fin catalog.length)).card := Finset.card_filter_le _ _
        _ = catalog.length := by rw [Finset.card_univ, Fintype.card_fin]

end Compendium.Catalog
