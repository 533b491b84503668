import Compendium.Proofs.Search.Narrowing
import Mathlib.Data.List.NodupEquivFin
import Mathlib.Logic.Equiv.Fin.Rotate

/-!
# Searches in a catalog put in another order

The order of a catalog counts for entries of one name only. Where a catalog lists the entries of
another at other places, those of one name in the same relative order, a search finds each entry at
the place that it was moved to, in the same order (`foundPlaces_reordered`). Main theorem
`search_reordered`: so it gives the same list, and where no two entries have one name it gives the
same list for every order of the catalog.
-/

namespace Compendium.Catalog

/-- The second catalog has every entry of the first at the place that it is moved to, and nothing
else; entries of one name keep their relative order. -/
structure Reorders (catalog catalog' : Catalog)
    (move : Fin catalog.length ≃ Fin catalog'.length) : Prop where
  get_move : ∀ i, catalog'.get (move i) = catalog.get i
  move_lt : ∀ i j, (catalog.get i).name = (catalog.get j).name → i < j → move i < move j

section
variable {catalog catalog' : Catalog} {move : Fin catalog.length ≃ Fin catalog'.length}

theorem Reorders.before (h : Reorders catalog catalog' move) {i j : Fin catalog.length}
    (hij : Before catalog i j) : Before catalog' (move i) (move j) := by
  obtain ⟨hsorted, hstable⟩ := hij
  simp only [Before, h.get_move]
  exact ⟨hsorted, fun hname => h.move_lt i j hname (hstable hname)⟩

/-- A search finds the entries at the places that they were moved to, in the same order. -/
theorem foundPlaces_reordered (h : Reorders catalog catalog' move) (bookmarks : List String)
    (label text : String) :
    foundPlaces catalog' bookmarks label text =
      (foundPlaces catalog bookmarks label text).map move := by
  have hnodup : ((foundPlaces catalog bookmarks label text).map move).Nodup :=
    (nodup_foundPlaces _ _ _ _).map move.injective
  have hperm : (foundPlaces catalog' bookmarks label text).Perm
      ((foundPlaces catalog bookmarks label text).map move) := by
    rw [List.perm_ext_iff_of_nodup (nodup_foundPlaces _ _ _ _) hnodup]
    intro i'
    obtain ⟨i, rfl⟩ := move.surjective i'
    rw [List.mem_map_of_injective move.injective, mem_foundPlaces, mem_foundPlaces, h.get_move]
  refine List.Perm.eq_of_pairwise (fun i j _ _ => before_antisymm) ?_ ?_ hperm
  · exact pairwise_foundPlaces _ _ _ _
  · rw [List.pairwise_map]
    exact (pairwise_foundPlaces _ _ _ _).imp h.before

theorem search_eq_of_reorders (h : Reorders catalog catalog' move) (bookmarks : List String)
    (label text : String) :
    catalog'.search bookmarks label text = catalog.search bookmarks label text := by
  have hget : catalog'.get ∘ move = catalog.get := funext h.get_move
  rw [← map_foundPlaces, foundPlaces_reordered h, List.map_map, hget, map_foundPlaces]

/-! ## Names of their own -/

/-- Where no two entries have one name, every order of the catalog keeps the relative order of
entries of one name. -/
theorem exists_reorders_of_perm (hnames : (List.map Entry.name catalog).Nodup)
    (h : catalog.Perm catalog') : ∃ move, Reorders catalog catalog' move := by
  have hnodup : catalog.Nodup := hnames.of_map
  have hnodup' : catalog'.Nodup := h.nodup_iff.1 hnodup
  let places := hnodup.getEquiv catalog
  let places' := hnodup'.getEquiv catalog'
  let same := Equiv.subtypeEquivRight fun e : Entry => (h.mem_iff : e ∈ catalog ↔ e ∈ catalog')
  refine ⟨(places.trans same).trans places'.symm, ?_, ?_⟩
  · intro i
    have hplace : places' (((places.trans same).trans places'.symm) i) = same (places i) :=
      places'.apply_symm_apply _
    exact congrArg Subtype.val hplace
  · intro i j hname hlt
    have hentry : catalog.get i = catalog.get j :=
      List.inj_on_of_nodup_map hnames (List.get_mem _ _) (List.get_mem _ _) hname
    exact absurd (List.nodup_iff_injective_get.1 hnodup hentry) (ne_of_lt hlt)

end

/-- **What a search gives does not depend on the order of the catalog**, but for the relative order
of entries of one name; where no two entries have one name, not at all. -/
theorem search_reordered (bookmarks : List String) (label text : String) :
    (∀ (catalog catalog' : Catalog) (move : Fin catalog.length ≃ Fin catalog'.length),
      Reorders catalog catalog' move →
        catalog'.search bookmarks label text = catalog.search bookmarks label text) ∧
    ∀ catalog catalog' : Catalog, catalog.Perm catalog' → (List.map Entry.name catalog).Nodup →
      catalog'.search bookmarks label text = catalog.search bookmarks label text := by
  refine ⟨fun catalog catalog' move h => search_eq_of_reorders h _ _ _, ?_⟩
  intro catalog catalog' hperm hnames
  obtain ⟨move, hmove⟩ := exists_reorders_of_perm hnames hperm
  exact search_eq_of_reorders hmove _ _ _

/-- An entry of which nothing is known but its kind and its name. -/
def named (k : Kind) (name : String) : Entry := .ofFields k [("name", .str name)]

/-- The two shadows stay in their order while the amulet moves in front of them. -/
theorem search_reordered_shadows :
    Reorders [named .creature "Shadow", named .spell "Shadow", named .item "Amulet"]
        [named .item "Amulet", named .creature "Shadow", named .spell "Shadow"] (finRotate 3) ∧
      search [named .item "Amulet", named .creature "Shadow", named .spell "Shadow"] [] "all" "a" =
        search [named .creature "Shadow", named .spell "Shadow", named .item "Amulet"] [] "all" "a" ∧
      [named .item "Torch", named .item "Amulet"].Perm [named .item "Amulet", named .item "Torch"] ∧
      search [named .item "Amulet", named .item "Torch"] [] "item" "t" =
        search [named .item "Torch", named .item "Amulet"] [] "item" "t" := by
  have hmove : Reorders [named .creature "Shadow", named .spell "Shadow", named .item "Amulet"]
      [named .item "Amulet", named .creature "Shadow", named .spell "Shadow"] (finRotate 3) :=
    ⟨by decide, by decide⟩
  have hswap : [named .item "Torch", named .item "Amulet"].Perm
      [named .item "Amulet", named .item "Torch"] := List.Perm.swap _ _ _
  exact ⟨hmove, (search_reordered [] "all" "a").1 _ _ _ hmove, hswap,
    (search_reordered [] "item" "t").2 _ _ hswap (by decide)⟩

end Compendium.Catalog
