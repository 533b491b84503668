import Compendium.Proofs.Decimal.Nearest

/-!
# Decimals on a grid

The decimals of one exponent are the whole steps of a power of ten. Rounding keeps order, so if any of
them is read as a double then so is a neighbour of the double: the greatest that is not above it or the
one that follows. Of the neighbours that read back the nearer is taken, the even one if both are as near.
So nothing is taken only where nothing on the grid reads back (`onGrid_eq_none_iff`), and what is taken is
the best of all that does (`bestOf_onGrid`).
-/

namespace Compendium.Double

/-! ## The nearest of some whole numbers -/

/-- Of the whole numbers in question it is one of the nearest, and if another is as near it is even. -/
structure BestOf (P : Nat → Prop) (y : ℚ) (s : Nat) : Prop where
  mem : P s
  nearest : ∀ t, P t → |(s : ℚ) - y| ≤ |(t : ℚ) - y|
  even : ∀ t, P t → |(t : ℚ) - y| = |(s : ℚ) - y| → t ≠ s → 2 ∣ s

section
variable {P : Nat → Prop} {y : ℚ} {b : Nat} (hb : b ≤ y) (hb' : y < b + 1)
include hb hb'

/-- The neighbour below is the best unless one above it is in question and nearer. -/
theorem bestOf_below (hmem : P b)
    (hnear : ∀ t, P t → b < t → 2 * (y - b) ≤ 1 ∧ (2 * (y - b) = 1 → 2 ∣ b)) : BestOf P y b where
  mem := hmem
  nearest t ht := by
    rw [abs_of_nonpos (by linarith)]
    rcases Nat.lt_or_ge b t with hlt | hle
    · have ht' : (b : ℚ) + 1 ≤ t := by exact_mod_cast hlt
      rw [abs_of_nonneg (by linarith)]
      linarith [(hnear t ht hlt).1]
    · have ht' : (t : ℚ) ≤ b := Nat.cast_le.2 hle
      rw [abs_of_nonpos (by linarith)]
      linarith
  even t ht htie hne := by
    rw [abs_of_nonpos (a := (b : ℚ) - y) (by linarith)] at htie
    rcases Nat.lt_or_gt_of_ne hne with hlt | hgt
    · have ht' : (t : ℚ) < b := Nat.cast_lt.2 hlt
      rw [abs_of_nonpos (by linarith)] at htie
      linarith
    · have ht' : (b : ℚ) + 1 ≤ t := by exact_mod_cast hgt
      obtain ⟨hhalf, heven⟩ := hnear t ht hgt
      rw [abs_of_nonneg (by linarith)] at htie
      exact heven (by linarith)

/-- The neighbour above is the best unless one below it is in question and nearer. -/
theorem bestOf_above (hmem : P (b + 1))
    (hnear : ∀ t, P t → t ≤ b → 1 ≤ 2 * (y - b) ∧ (2 * (y - b) = 1 → 2 ∣ b + 1)) :
    BestOf P y (b + 1) where
  mem := hmem
  nearest t ht := by
    push_cast
    rw [abs_of_nonneg (by linarith)]
    rcases Nat.lt_or_ge b t with hlt | hle
    · have ht' : (b : ℚ) + 1 ≤ t := by exact_mod_cast hlt
      rw [abs_of_nonneg (by linarith)]
      linarith
    · have ht' : (t : ℚ) ≤ b := Nat.cast_le.2 hle
      rw [abs_of_nonpos (by linarith)]
      linarith [(hnear t ht hle).1]
  even t ht htie hne := by
    push_cast at htie
    rw [abs_of_nonneg (a := (b : ℚ) + 1 - y) (by linarith)] at htie
    rcases Nat.lt_or_ge b t with hlt | hle
    · have ht' : (b : ℚ) + 1 < t := by exact_mod_cast Nat.lt_of_le_of_ne hlt (Ne.symm hne)
      rw [abs_of_nonneg (by linarith)] at htie
      linarith
    · have ht' : (t : ℚ) ≤ b := Nat.cast_le.2 hle
      obtain ⟨hhalf, heven⟩ := hnear t ht hle
      rw [abs_of_nonpos (by linarith)] at htie
      exact heven (by linarith)

end

/-! ## The neighbours on a grid -/

theorem div_bounds (num : Nat) {den : Nat} (hden : 0 < den) :
    ((num / den : Nat) : ℚ) ≤ num / den ∧ (num : ℚ) / den < (num / den : Nat) + 1 := by
  have hden' : (0 : ℚ) < den := Nat.cast_pos.2 hden
  rw [le_div_iff₀ hden', div_lt_iff₀ hden']
  have hlow := Nat.div_mul_le_self num den
  have hhigh := Nat.lt_div_mul_add hden (a := num)
  constructor
  · exact_mod_cast hlow
  · rw [add_mul, one_mul]
    exact_mod_cast hhigh

/-- Rounding a quotient down tells on which side of the middle it is. -/
theorem roundDiv_halves (num : Nat) {den : Nat} (hden : 0 < den) :
    (roundDiv num den = num / den → 2 * ((num : ℚ) / den - (num / den : Nat)) ≤ 1 ∧
      (2 * ((num : ℚ) / den - (num / den : Nat)) = 1 → 2 ∣ num / den)) ∧
    (roundDiv num den ≠ num / den → 1 ≤ 2 * ((num : ℚ) / den - (num / den : Nat)) ∧
      (2 * ((num : ℚ) / den - (num / den : Nat)) = 1 → 2 ∣ num / den + 1)) := by
  have hden' : (0 : ℚ) < den := Nat.cast_pos.2 hden
  have hrest : (num : ℚ) / den - (num / den : Nat) = (num % den : Nat) / den := by
    have hnum : (den : ℚ) * (num / den : Nat) + (num % den : Nat) = num := by
      exact_mod_cast Nat.div_add_mod num den
    rw [eq_div_iff (ne_of_gt hden'), sub_mul, div_mul_cancel₀ _ (ne_of_gt hden')]
    linarith
  have hle : 2 * ((num % den : Nat) : ℚ) ≤ den ↔ 2 * (num % den) ≤ den := by exact_mod_cast Iff.rfl
  have hge : (den : ℚ) ≤ 2 * ((num % den : Nat) : ℚ) ↔ den ≤ 2 * (num % den) := by
    exact_mod_cast Iff.rfl
  have heq : 2 * ((num % den : Nat) : ℚ) = den ↔ 2 * (num % den) = den := by exact_mod_cast Iff.rfl
  rw [hrest, ← mul_div_assoc, div_le_one hden', one_le_div hden', div_eq_one_iff_eq (ne_of_gt hden'),
    hle, hge, heq]
  unfold roundDiv
  dsimp only
  split <;> constructor <;> intro hround <;> omega

/-- Above the line when a double is measured in steps of `10 ^ e`. -/
def gridNum (units : Nat) (e : Int) : Nat := if e ≤ 0 then units * Nat.pow 10 (-e).toNat else units

/-- Below the line when a double is measured in steps of `10 ^ e`. -/
def gridDen (e : Int) : Nat := if e ≤ 0 then one else one * Nat.pow 10 e.toNat

/-- The whole steps of `10 ^ e` in a double. -/
def stepsBelow (units : Nat) (e : Int) : Nat := gridNum units e / gridDen e

theorem gridDen_pos (e : Int) : 0 < gridDen e := by
  unfold gridDen
  split
  · exact one_positive
  · exact Nat.mul_pos one_positive (Nat.pow_pos (by decide))

theorem grid_fraction (units : Nat) (e : Int) :
    (gridNum units e : ℚ) / gridDen e = size units / 10 ^ e := by
  unfold gridNum gridDen size
  rcases Int.lt_or_le 0 e with he | he
  · obtain ⟨k, hk⟩ : ∃ k : Nat, e = k := Int.eq_ofNat_of_zero_le (by omega)
    rw [if_neg (by omega), if_neg (by omega), hk, Int.toNat_natCast, zpow_natCast, div_div, Nat.pow_eq]
    push_cast
    rfl
  · obtain ⟨k, hk⟩ : ∃ k : Nat, -e = k := Int.eq_ofNat_of_zero_le (by omega)
    have hpower : (10 : ℚ) ^ e = 1 / 10 ^ k := by rw [← neg_neg e, hk, Decimal.ten_pow_neg]
    rw [if_pos he, if_pos he, hk, Int.toNat_natCast, hpower, div_div_eq_mul_div, div_one,
      div_mul_eq_mul_div, Nat.pow_eq]
    push_cast
    rfl

theorem stepsBelow_bounds (units : Nat) (e : Int) :
    (stepsBelow units e : ℚ) ≤ size units / 10 ^ e ∧ size units / 10 ^ e < stepsBelow units e + 1 := by
  rw [← grid_fraction]
  exact div_bounds _ (gridDen_pos e)

theorem onGrid_eq (units : Nat) (point : Int) (count : Nat) :
    onGrid units point count =
      match readsBack units ⟨stepsBelow units (point - count), point - count⟩,
        readsBack units ⟨stepsBelow units (point - count) + 1, point - count⟩ with
      | true, true =>
        some (if roundDiv (gridNum units (point - count)) (gridDen (point - count)) =
            stepsBelow units (point - count)
          then ⟨stepsBelow units (point - count), point - count⟩
          else ⟨stepsBelow units (point - count) + 1, point - count⟩)
      | true, false => some ⟨stepsBelow units (point - count), point - count⟩
      | false, true => some ⟨stepsBelow units (point - count) + 1, point - count⟩
      | false, false => none := rfl

section
variable {units : Nat} (hbound : units < bound) (hspaced : spacing units ∣ units)
include hbound hspaced

/-- A step below the double reads back if one further below does. -/
theorem readsBack_below {e : Int} {b t : Nat} (hb : b ≤ size units / 10 ^ e) (ht : t ≤ b)
    (h : readsBack units ⟨t, e⟩ = true) : readsBack units ⟨b, e⟩ = true := by
  rw [readsBack_iff_nearest hbound] at h ⊢
  refine nearest_between h (nearest_size hspaced) ?_ ?_
  · exact mul_le_mul_of_nonneg_right (Nat.cast_le.2 ht) (le_of_lt (Decimal.ten_pow_pos e))
  · exact (le_div_iff₀ (Decimal.ten_pow_pos e)).1 hb

/-- A step above the double reads back if one further above does. -/
theorem readsBack_above {e : Int} {b t : Nat} (hb : size units / 10 ^ e ≤ b) (ht : b ≤ t)
    (h : readsBack units ⟨t, e⟩ = true) : readsBack units ⟨b, e⟩ = true := by
  rw [readsBack_iff_nearest hbound] at h ⊢
  refine nearest_between (nearest_size hspaced) h ?_ ?_
  · exact (div_le_iff₀ (Decimal.ten_pow_pos e)).1 hb
  · exact mul_le_mul_of_nonneg_right (Nat.cast_le.2 ht) (le_of_lt (Decimal.ten_pow_pos e))

/-- What is taken from a grid is the best of what reads back on it. -/
theorem bestOf_onGrid {point : Int} {count : Nat} {d : Decimal}
    (h : onGrid units point count = some d) :
    ∃ s, d = ⟨s, point - count⟩ ∧
      (s = stepsBelow units (point - count) ∨ s = stepsBelow units (point - count) + 1) ∧
      BestOf (fun t => readsBack units ⟨t, point - count⟩ = true)
        (size units / 10 ^ (point - count)) s := by
  obtain ⟨hlow, hhigh⟩ := stepsBelow_bounds units (point - count)
  obtain ⟨hdown, hup⟩ := roundDiv_halves (gridNum units (point - count)) (gridDen_pos (point - count))
  have habove : size units / 10 ^ (point - count) ≤ (stepsBelow units (point - count) + 1 : Nat) := by
    push_cast
    exact le_of_lt hhigh
  rw [grid_fraction] at hdown hup
  rw [onGrid_eq] at h
  split at h
  · rename_i hmemb hmema
    by_cases hround : roundDiv (gridNum units (point - count)) (gridDen (point - count)) =
        stepsBelow units (point - count)
    · rw [if_pos hround] at h
      obtain rfl := (Option.some.inj h).symm
      exact ⟨_, rfl, Or.inl rfl, bestOf_below hlow hhigh hmemb fun _ _ _ => hdown hround⟩
    · rw [if_neg hround] at h
      obtain rfl := (Option.some.inj h).symm
      exact ⟨_, rfl, Or.inr rfl, bestOf_above hlow hhigh hmema fun _ _ _ => hup hround⟩
  · rename_i hmemb hmema
    obtain rfl := (Option.some.inj h).symm
    refine ⟨_, rfl, Or.inl rfl, bestOf_below hlow hhigh hmemb fun t ht hlt => ?_⟩
    rw [readsBack_above hbound hspaced habove hlt ht] at hmema
    exact absurd hmema (by simp)
  · rename_i hmemb hmema
    obtain rfl := (Option.some.inj h).symm
    refine ⟨_, rfl, Or.inr rfl, bestOf_above hlow hhigh hmema fun t ht hle => ?_⟩
    rw [readsBack_below hbound hspaced hlow hle ht] at hmemb
    exact absurd hmemb (by simp)
  · exact absurd h (by simp)

/-- Nothing is taken from a grid only if nothing on it reads back. -/
theorem onGrid_eq_none_iff {point : Int} {count : Nat} :
    onGrid units point count = none ↔ ∀ t, readsBack units ⟨t, point - count⟩ = false := by
  obtain ⟨hlow, hhigh⟩ := stepsBelow_bounds units (point - count)
  have habove : size units / 10 ^ (point - count) ≤ (stepsBelow units (point - count) + 1 : Nat) := by
    push_cast
    exact le_of_lt hhigh
  rw [onGrid_eq]
  constructor
  · intro h t
    split at h
    · exact absurd h (by simp)
    · exact absurd h (by simp)
    · exact absurd h (by simp)
    · rename_i hmemb hmema
      rw [← Bool.not_eq_true]
      intro ht
      rcases Nat.lt_or_ge (stepsBelow units (point - count)) t with hlt | hle
      · rw [readsBack_above hbound hspaced habove hlt ht] at hmema
        exact absurd hmema (by simp)
      · rw [readsBack_below hbound hspaced hlow hle ht] at hmemb
        exact absurd hmemb (by simp)
  · intro h
    rw [h, h]

end

end Compendium.Double
