import Compendium.Decimal.Shortest
import Compendium.Proofs.Decimal.Rounding

/-!
# The shortest decimal reads back

Each decimal that the search tries is taken only if it reads back, and the exact value, which stands
behind all of them, reads back because a double is nearest to itself (`readsBack_exact`). So whatever
the search comes to reads back. Main theorem `readsBack_shortest`.
-/

namespace Compendium.Double

variable {units : Nat}

theorem readsBack_iff {d : Decimal} :
    readsBack units d = true ↔ ofDecimal false d.digits d.exponent = .finite false units :=
  decide_eq_true_iff

/-! ## The exact value -/

/-- A unit of `2 ^ -1074` is `5 ^ 1074` units of `10 ^ -1074`. -/
theorem unitDigits_mul_one : unitDigits * one = Nat.pow 10 1074 := by decide +kernel

theorem length_toDigits_exact {low high : Nat} (hlow : 0 < low) (hhigh : 0 < high)
    (hleast : Nat.pow 10 low ≤ unitDigits) (hmost : bound * unitDigits ≤ Nat.pow 10 high)
    (hpos : 0 < units) (hbound : units < bound) :
    low < (Nat.toDigits 10 (exact units).digits).length ∧
      (Nat.toDigits 10 (exact units).digits).length ≤ high := by
  have hunit : 0 < unitDigits := Nat.lt_of_lt_of_le (Nat.pow_pos (by decide)) hleast
  have hdigits : (exact units).digits = units * unitDigits := rfl
  rw [hdigits, ← Nat.not_le, Nat.length_toDigits_le_iff (by decide) hlow,
    Nat.length_toDigits_le_iff (by decide) hhigh, Nat.not_lt]
  exact ⟨Nat.le_trans hleast (Nat.le_mul_of_pos_left unitDigits hpos),
    Nat.lt_of_lt_of_le (Nat.mul_lt_mul_of_pos_right hbound hunit) hmost⟩

/-- The digits of the exact value are neither too few nor too many for the reader. -/
theorem length_digits_exact (hpos : 0 < units) (hbound : units < bound) :
    673 < (Nat.toDigits 10 (exact units).digits).length ∧
      (Nat.toDigits 10 (exact units).digits).length ≤ 1474 :=
  length_toDigits_exact (by decide) (by decide) (by decide +kernel) (by decide +kernel) hpos hbound

/-- The exact value of a double reads back. -/
theorem readsBack_exact (hpos : 0 < units) (hbound : units < bound) (h : spacing units ∣ units) :
    readsBack units (exact units) = true := by
  obtain ⟨hlow, hhigh⟩ := length_digits_exact hpos hbound
  have hunit : 0 < unitDigits := by decide +kernel
  have hdigits : (exact units).digits ≠ 0 := Nat.ne_of_gt (Nat.mul_pos hpos hunit)
  have hexponent : (exact units).exponent = -1074 := rfl
  have hnum : (exact units).digits * one = units * Nat.pow 10 1074 := by
    rw [exact, Nat.mul_assoc, unitDigits_mul_one]
  have hsmall : ¬ ((exact units).digits = 0 ∨
      ((Nat.toDigits 10 (exact units).digits).length : Int) + -1074 < -400) := by omega
  have hlarge : ¬ 400 < ((Nat.toDigits 10 (exact units).digits).length : Int) + -1074 := by omega
  rw [readsBack_iff, hexponent, ofDecimal, if_neg hsmall, if_neg hlarge, if_neg (by decide), hnum]
  have hround : ∀ den, 0 < den → ofUnits false (nearestUnits (units * den) den) = .finite false units := by
    intro den hden
    rw [nearestUnits_of_spacing_dvd hden h, ofUnits, if_pos hbound]
  exact hround (Nat.pow 10 1074) (by decide +kernel)

/-! ## The search -/

theorem readsBack_search (hexact : readsBack units (exact units) = true) (point : Int)
    (fuel count : Nat) : readsBack units (search units point fuel count) = true := by
  induction fuel generalizing count with
  | zero => exact hexact
  | succ fuel ih =>
    rw [search]
    cases hgrid : onGrid units point count with
    | none => exact ih (count + 1)
    | some d => exact readsBack_onGrid hgrid

/-- **The shortest decimal of a double reads back.** -/
theorem readsBack_shortest (hpos : 0 < units) (hbound : units < bound) (h : spacing units ∣ units) :
    readsBack units (shortest units) = true :=
  readsBack_search (readsBack_exact hpos hbound h) _ _ _

/-- A decimal that reads back as a number other than zero is not zero. -/
theorem digits_pos_of_readsBack {d : Decimal} (hpos : 0 < units) (h : readsBack units d = true) :
    0 < d.digits := by
  rw [readsBack_iff] at h
  rcases Nat.eq_zero_or_pos d.digits with hzero | hdigits
  · have hunits : ofDecimal false d.digits d.exponent = .finite false 0 := by
      rw [hzero, ofDecimal]
      simp
    rw [hunits, Double.finite.injEq] at h
    omega
  · exact hdigits

end Compendium.Double
