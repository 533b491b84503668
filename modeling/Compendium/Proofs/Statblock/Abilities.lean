import Compendium.Proofs.Assignments
import Compendium.Proofs.Search.Numbers
import Compendium.Statblock.Basic
import Mathlib.Data.List.Forall2
import Mathlib.Data.List.Nodup

/-!
# How abilities are shown

The abilities of a creature are taken from their map in two passes, one over the usual abilities in
their order and one over the map for all others. Where no name comes up twice the two passes take
every ability once (`orderedStats_perm`), so what is shown depends on the map only by the order of the
unusual ones. Main theorem `statsText_arranged`.
-/

namespace Compendium

/-! ## Signs -/

/-- The scalar is a number that is at least zero: a zero of either sign is, and so is infinity. -/
def Scalar.AtLeastZero : Scalar → Prop
  | .int n => 0 ≤ n
  | .float x => x = .infinite false ∨ ∃ q, x.value? = some q ∧ 0 ≤ q
  | .text _ => False

theorem Double.value_nonneg_iff {negative : Bool} {units : Nat} :
    (∃ q, (Double.finite negative units).value? = some q ∧ 0 ≤ q) ↔ negative = false ∨ units = 0 := by
  have hmagnitude : (0 : ℚ) ≤ units / one := div_nonneg (Nat.cast_nonneg _) (Nat.cast_nonneg _)
  have hzero : (units : ℚ) / one = 0 ↔ units = 0 := by
    rw [div_eq_zero_iff, or_iff_left one_ne_zero, Nat.cast_eq_zero]
  simp only [value?, Option.some.injEq, exists_eq_left']
  generalize (units : ℚ) / one = q at hmagnitude hzero ⊢
  rw [← hzero]
  cases negative with
  | false => simpa using hmagnitude
  | true =>
    simp only [if_true, neg_mul, one_mul, Bool.true_eq_false, false_or, Left.nonneg_neg_iff]
    exact ⟨fun h => le_antisymm h hmagnitude, le_of_eq⟩

theorem Scalar.nonnegative_iff {s : Scalar} : s.nonnegative = true ↔ s.AtLeastZero := by
  cases s with
  | int n => simp [nonnegative, AtLeastZero]
  | text t => simp [nonnegative, AtLeastZero]
  | float x =>
    cases x with
    | nan => simp [nonnegative, AtLeastZero, Double.nonnegative, Double.value?]
    | infinite negative => simp [nonnegative, AtLeastZero, Double.nonnegative, Double.value?]
    | finite negative units =>
      rw [AtLeastZero, or_iff_right (by simp), Double.value_nonneg_iff]
      simp [nonnegative, Double.nonnegative]

namespace Statblock

/-! ## Rows -/

/-- An ability as a row: its name in upper case, a blank, and its label, with a plus sign before the
label if the value is a number of at least zero. -/
inductive Row : String × Scalar → String → Prop where
  | signed {name : String} {s : Scalar} (h : s.AtLeastZero) :
      Row (name, s) (Text.upper name ++ " " ++ "+" ++ s.label)
  | unsigned {name : String} {s : Scalar} (h : ¬ s.AtLeastZero) :
      Row (name, s) (Text.upper name ++ " " ++ s.label)

theorem row_modifier (f : String × Scalar) : Row f (Text.upper f.1 ++ " " ++ modifier f.2) := by
  obtain ⟨name, s⟩ := f
  unfold modifier
  by_cases h : s.AtLeastZero
  · rw [if_pos (Scalar.nonnegative_iff.2 h), ← String.append_assoc]
    exact .signed h
  · rw [if_neg (mt Scalar.nonnegative_iff.1 h)]
    exact .unsigned h

/-! ## The two passes -/

/-- The usual abilities of a map, in their order. -/
def usualStats (stats : List (String × Scalar)) : List (String × Scalar) :=
  abilityOrder.filterMap fun k => (stats.lookup k).map (k, ·)

/-- The other abilities of a map, in its own order. -/
def otherStats (stats : List (String × Scalar)) : List (String × Scalar) :=
  stats.filter fun f => f.1 ∉ abilityOrder

theorem orderedStats_eq (stats : List (String × Scalar)) :
    orderedStats stats = usualStats stats ++ otherStats stats := rfl

theorem names_usualStats (stats : List (String × Scalar)) :
    Fields.names (usualStats stats) = abilityOrder.filter (· ∈ Fields.names stats) := by
  have hname : ∀ k, ((Fields.get? stats k).map (k, ·)).map Prod.fst =
      Option.guard (fun k => decide (k ∈ Fields.names stats)) k := by
    intro k
    cases hget : Fields.get? stats k with
    | none => simp [Option.guard, Fields.get?_eq_none_iff.1 hget]
    | some s =>
      have hk : k ∈ Fields.names stats := by
        by_contra hk
        rw [Fields.get?_eq_none_iff.2 hk] at hget
        exact absurd hget (by simp)
      simp [Option.guard, hk]
  rw [usualStats, Fields.names, List.map_filterMap, ← List.filterMap_eq_filter]
  exact List.filterMap_congr fun k _ => hname k

theorem names_otherStats (stats : List (String × Scalar)) :
    Fields.names (otherStats stats) = (Fields.names stats).filter (· ∉ abilityOrder) := by
  rw [otherStats, Fields.names, Fields.names, List.filter_map]
  rfl

/-- The abilities of a map in the order in which they are to be shown: all of them, each once; the
usual ones that there are first, and then the others in the order of the map. -/
structure Arranged (stats shown : List (String × Scalar)) : Prop where
  perm : shown.Perm stats
  names_eq : Fields.names shown =
    abilityOrder.filter (· ∈ Fields.names stats) ++ (Fields.names stats).filter (· ∉ abilityOrder)

section
variable {stats : List (String × Scalar)} (hnames : (Fields.names stats).Nodup)
include hnames

theorem mem_usualStats {f : String × Scalar} :
    f ∈ usualStats stats ↔ f ∈ stats ∧ f.1 ∈ abilityOrder := by
  obtain ⟨name, s⟩ := f
  rw [Fields.mem_iff_get? hnames, Fields.get?]
  simp only [usualStats, List.mem_filterMap, Option.map_eq_some_iff, Prod.mk.injEq]
  constructor
  · rintro ⟨k, hk, v, hv, rfl, rfl⟩
    exact ⟨hv, hk⟩
  · rintro ⟨hv, hk⟩
    exact ⟨name, hk, s, hv, rfl, rfl⟩

theorem usualStats_perm : (usualStats stats).Perm (stats.filter fun f => f.1 ∈ abilityOrder) := by
  have hstats : stats.Nodup := hnames.of_map _
  have husual : (usualStats stats).Nodup := by
    refine List.Nodup.of_map Prod.fst ?_
    have horder : abilityOrder.Nodup := by decide
    have hfirst := horder.filter fun k => decide (k ∈ Fields.names stats)
    rwa [← names_usualStats] at hfirst
  rw [List.perm_ext_iff_of_nodup husual (hstats.filter _)]
  intro f
  rw [mem_usualStats hnames, List.mem_filter, decide_eq_true_iff]

/-- The two passes take every ability once. -/
theorem orderedStats_perm : (orderedStats stats).Perm stats := by
  have hparted := List.filter_append_perm (fun f : String × Scalar => decide (f.1 ∈ abilityOrder)) stats
  have hothers : otherStats stats =
      stats.filter fun f => !decide (f.1 ∈ abilityOrder) := by simp [otherStats]
  rw [orderedStats_eq, hothers]
  exact ((usualStats_perm hnames).append_right _).trans hparted

theorem arranged_orderedStats : Arranged stats (orderedStats stats) where
  perm := orderedStats_perm hnames
  names_eq := by
    rw [← names_usualStats, ← names_otherStats, orderedStats_eq, Fields.names, List.map_append]
    rfl

/-- There is one order in which the abilities of a map are to be shown. -/
theorem Arranged.eq_orderedStats {shown : List (String × Scalar)} (h : Arranged stats shown) :
    shown = orderedStats stats := by
  have hown := arranged_orderedStats hnames
  have hshown : (Fields.names shown).Nodup := (h.perm.map Prod.fst).nodup_iff.2 hnames
  have hordered : (Fields.names (orderedStats stats)).Nodup :=
    (hown.perm.map Prod.fst).nodup_iff.2 hnames
  refine Fields.eq_of_get? hshown (h.names_eq.trans hown.names_eq.symm) fun name => Option.ext fun s => ?_
  rw [← Fields.mem_iff_get? hshown, ← Fields.mem_iff_get? hordered, h.perm.mem_iff, hown.perm.mem_iff]

/-- What is shown depends on the abilities, and on the order of those that are not usual. -/
theorem orderedStats_congr {others : List (String × Scalar)} (hperm : others.Perm stats)
    (horder : (Fields.names others).filter (· ∉ abilityOrder) =
      (Fields.names stats).filter (· ∉ abilityOrder)) : orderedStats others = orderedStats stats := by
  have hothers : (Fields.names others).Nodup := (hperm.map Prod.fst).nodup_iff.2 hnames
  have hown := arranged_orderedStats hothers
  refine Arranged.eq_orderedStats hnames ⟨hown.perm.trans hperm, ?_⟩
  have hmem : ∀ k, k ∈ Fields.names others ↔ k ∈ Fields.names stats := fun k =>
    (hperm.map Prod.fst).mem_iff
  rw [hown.names_eq, horder]
  simp only [hmem]

/-- **Every ability is shown once, in a row of its own:** the usual abilities that there are in their
order, and then the others in the order of the map. Two maps with the same abilities and with the
same order of the unusual ones are shown alike. -/
theorem statsText_arranged :
    abilityOrder = ["str", "dex", "con", "int", "wis", "cha"] ∧
    (∃ shown rows, Arranged stats shown ∧ List.Forall₂ Row shown rows ∧
      statsText stats = ", ".intercalate rows) ∧
    ∀ others : List (String × Scalar), others.Perm stats →
      (Fields.names others).filter (· ∉ abilityOrder) =
        (Fields.names stats).filter (· ∉ abilityOrder) →
      statsText others = statsText stats := by
  refine ⟨rfl, ?_, ?_⟩
  · refine ⟨_, _, arranged_orderedStats hnames, ?_, rfl⟩
    rw [List.forall₂_map_right_iff, List.forall₂_same]
    exact fun f _ => row_modifier f
  · intro others hperm horder
    rw [statsText, statsText, orderedStats_congr hnames hperm horder]

end

/-- A map with a usual ability spelled in capitals, a minus zero, an infinity and a text. -/
def mixedStats : List (String × Scalar) :=
  [("CHA", .int (-1)), ("cha", .float (.finite true 0)), ("luck", .text "+1"),
    ("str", .float (.infinite false)), ("dex", .int 3)]

theorem statsText_arranged_mixed :
    (Fields.names mixedStats).Nodup ∧
      statsText [("dex", .int 3), ("CHA", .int (-1)), ("str", .float (.infinite false)),
        ("luck", .text "+1"), ("cha", .float (.finite true 0))] = statsText mixedStats ∧
      statsText mixedStats = "STR +inf, DEX +3, CHA +0, CHA -1, LUCK +1" := by
  have hnames : (Fields.names mixedStats).Nodup := by decide
  exact ⟨hnames, (statsText_arranged hnames).2.2 _ (by decide) (by decide), by decide +kernel⟩

end Statblock

end Compendium
