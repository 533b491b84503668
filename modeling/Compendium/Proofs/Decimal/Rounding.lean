import Compendium.Decimal.Double
import Mathlib.Tactic.Linarith

/-!
# Rounding to the nearest double

The number of units nearest to a fraction depends on its value only (`nearestUnits_mul_left`), is
always one that a double has (`spacing_dvd_nearestUnits`), and a number that a double has is nearest
to itself (`nearestUnits_of_spacing_dvd`). So a decimal reads as the same number wherever its point is
written (`ofDecimal_shift`), and what is read is a double. Main theorem `representable_ofDecimal`.
-/

namespace Compendium.Double

/-! ## Quotients -/

theorem roundDiv_mul_left {k : Nat} (hk : 0 < k) (num den : Nat) :
    roundDiv (k * num) (k * den) = roundDiv num den := by
  have htwice : 2 * (k * (num % den)) = k * (2 * (num % den)) := Nat.mul_left_comm 2 k (num % den)
  simp only [roundDiv, Nat.mul_div_mul_left _ _ hk, Nat.mul_mod_mul_left, htwice,
    Nat.mul_lt_mul_left hk, Nat.mul_right_inj (Nat.ne_of_gt hk)]

/-- A quotient that is whole is not rounded. -/
theorem roundDiv_mul_self {den : Nat} (hden : 0 < den) (n : Nat) : roundDiv (n * den) den = n := by
  have hquotient : n * den / den = n := Nat.mul_div_cancel n hden
  have hexact : n * den % den = 0 := Nat.mul_mod_left n den
  simp [roundDiv, hquotient, hexact, hden]

theorem roundDiv_le (num den : Nat) : roundDiv num den ≤ num / den + 1 := by
  unfold roundDiv
  dsimp only
  split <;> omega

/-! ## The nearest number of units -/

theorem spacing_pos (n : Nat) : 0 < spacing n := Nat.pow_pos (by decide)

/-- The nearest number of units depends on nothing but the value of the fraction. -/
theorem nearestUnits_mul_left {k : Nat} (hk : 0 < k) (num den : Nat) :
    nearestUnits (k * num) (k * den) = nearestUnits num den := by
  simp only [nearestUnits, Nat.mul_div_mul_left _ _ hk, Nat.mul_assoc, roundDiv_mul_left hk]

/-- Up to 53 bits, followed by any number of zeros, are the units of a double. -/
theorem spacing_dvd_mul_pow {q : Nat} (hq : q ≤ 2 ^ 53) (k : Nat) :
    spacing (q * 2 ^ k) ∣ q * 2 ^ k := by
  rcases Nat.eq_zero_or_pos q with rfl | hpos
  · simp
  · have hne : q * 2 ^ k ≠ 0 := Nat.ne_of_gt (Nat.mul_pos hpos (Nat.two_pow_pos k))
    rcases Nat.lt_or_eq_of_le hq with hlt | rfl
    · have hbits : (q * 2 ^ k).log2 < 53 + k := by
        rw [Nat.log2_lt hne, Nat.pow_add]
        exact Nat.mul_lt_mul_of_pos_right hlt (Nat.two_pow_pos k)
      have hpower : spacing (q * 2 ^ k) ∣ 2 ^ k := Nat.pow_dvd_pow 2 (by omega)
      exact Nat.dvd_mul_left_of_dvd hpower q
    · have hbits : (2 ^ 53 * 2 ^ k).log2 = 53 + k := by rw [← Nat.pow_add, Nat.log2_two_pow]
      rw [spacing, hbits, ← Nat.pow_add]
      exact Nat.pow_dvd_pow 2 (by omega)

theorem div_spacing_lt (n : Nat) : n / spacing n < 2 ^ 53 := by
  have hbits : n < 2 ^ (n.log2 + 1) := Nat.lt_log2_self
  rw [Nat.div_lt_iff_lt_mul (spacing_pos n), spacing]
  have hpower : (2 : Nat) ^ (n.log2 + 1) ≤ 2 ^ (53 + (n.log2 - 52)) :=
    Nat.pow_le_pow_right (by decide) (by omega)
  have hproduct : (2 : Nat) ^ 53 * Nat.pow 2 (n.log2 - 52) = 2 ^ (53 + (n.log2 - 52)) :=
    (Nat.pow_add 2 53 (n.log2 - 52)).symm
  omega

/-- The nearest number of units is one that a double has. -/
theorem spacing_dvd_nearestUnits (num den : Nat) :
    spacing (nearestUnits num den) ∣ nearestUnits num den := by
  have hquotient : roundDiv num (den * spacing (num / den)) ≤ 2 ^ 53 := by
    have hround := roundDiv_le num (den * spacing (num / den))
    have hbits := div_spacing_lt (num / den)
    rw [Nat.div_div_eq_div_mul] at hbits
    omega
  exact spacing_dvd_mul_pow hquotient _

/-- A number of units that a double has is nearest to itself. -/
theorem nearestUnits_of_spacing_dvd {units den : Nat} (hden : 0 < den)
    (h : spacing units ∣ units) : nearestUnits (units * den) den = units := by
  obtain ⟨q, hq⟩ := h
  have hstep : 0 < den * spacing units := Nat.mul_pos hden (spacing_pos units)
  have hnum : units * den = q * (den * spacing units) := by
    calc units * den = spacing units * q * den := by rw [← hq]
      _ = q * (den * spacing units) := by rw [Nat.mul_comm (spacing units), Nat.mul_assoc,
          Nat.mul_comm (spacing units)]
  have hwhole : units * den / den = units := Nat.mul_div_cancel units hden
  rw [nearestUnits, hwhole, hnum, roundDiv_mul_self hstep, Nat.mul_comm, ← hq]

/-! ## Reading decimals -/

/-- A number that there is a double of: a finite one is not too large and has no bits below its
spacing. -/
inductive Representable : Double → Prop where
  | nan : Representable .nan
  | infinite (negative : Bool) : Representable (.infinite negative)
  | finite (negative : Bool) {units : Nat} (lt_bound : units < bound)
      (spaced : spacing units ∣ units) : Representable (.finite negative units)

theorem bound_pos : 0 < bound := by decide +kernel

theorem representable_ofUnits {units : Nat} (h : spacing units ∣ units) (negative : Bool) :
    (ofUnits negative units).Representable := by
  by_cases hbound : units < bound
  · rw [ofUnits, if_pos hbound]
    exact .finite negative hbound h
  · rw [ofUnits, if_neg hbound]
    exact .infinite negative

/-- **What a decimal is read as is a double.** -/
theorem representable_ofDecimal (negative : Bool) (digits : Nat) (exponent : Int) :
    (ofDecimal negative digits exponent).Representable := by
  unfold ofDecimal
  dsimp only
  split
  · exact .finite negative bound_pos (Nat.dvd_zero _)
  · split
    · exact .infinite negative
    · split <;> exact representable_ofUnits (spacing_dvd_nearestUnits _ _) negative

/-- The sign of a decimal is that of the double that it is read as. -/
theorem ofDecimal_of_positive {digits units : Nat} {exponent : Int}
    (h : ofDecimal false digits exponent = .finite false units) (negative : Bool) :
    ofDecimal negative digits exponent = .finite negative units := by
  have hunits : ∀ n, ofUnits false n = .finite false units → ofUnits negative n = .finite negative units := by
    intro n hn
    unfold ofUnits at hn ⊢
    split at hn
    · rename_i hbound
      rw [if_pos hbound, (Double.finite.inj hn).2]
    · exact absurd hn (by simp)
  unfold ofDecimal at h ⊢
  dsimp only at h ⊢
  split at h
  · rename_i hzero
    rw [if_pos hzero, (Double.finite.inj h).2]
  · rename_i hzero
    rw [if_neg hzero]
    split at h
    · exact absurd h (by simp)
    · rename_i hlarge
      rw [if_neg hlarge]
      split at h
      · rename_i hexponent
        rw [if_pos hexponent]
        exact hunits _ h
      · rename_i hexponent
        rw [if_neg hexponent]
        exact hunits _ h

theorem length_toDigits_mul_ten {n : Nat} (h : 0 < n) :
    (Nat.toDigits 10 (n * 10)).length = (Nat.toDigits 10 n).length + 1 := by
  have hdigits := Nat.toDigits_of_base_le (b := 10) (n := n * 10) (by decide) (by omega)
  rw [hdigits, Nat.mul_div_cancel n (by decide), List.length_append, List.length_singleton]

/-- The nearest number of units to a decimal does not change when its point is written one place
further to the left. -/
theorem nearestUnits_shift (digits exponent : Nat) :
    nearestUnits (digits * 10 * one) (Nat.pow 10 (exponent + 1)) =
      nearestUnits (digits * one) (Nat.pow 10 exponent) := by
  have hnum : digits * 10 * one = 10 * (digits * one) := by rw [Nat.mul_right_comm, Nat.mul_comm]
  have hden : Nat.pow 10 (exponent + 1) = 10 * Nat.pow 10 exponent := Nat.pow_succ'
  rw [hnum, hden, nearestUnits_mul_left (by decide)]

/-- A decimal reads as the same number with one more zero and the point one place further. -/
theorem ofDecimal_mul_ten (negative : Bool) (digits : Nat) (exponent : Int) :
    ofDecimal negative (digits * 10) (exponent - 1) = ofDecimal negative digits exponent := by
  rcases Nat.eq_zero_or_pos digits with rfl | hpos
  · simp [ofDecimal]
  have hmagnitude : ((Nat.toDigits 10 (digits * 10)).length : Int) + (exponent - 1) =
      (Nat.toDigits 10 digits).length + exponent := by
    rw [length_toDigits_mul_ten hpos]
    omega
  have hzero : digits * 10 = 0 ↔ digits = 0 := by omega
  simp only [ofDecimal, hmagnitude, hzero]
  -- Where the number is in range, the point stands behind the digits, right at their end, or before it.
  congr 2
  rcases exponent with (_ | n) | n
  · have hbelow : ¬ (0 : Int) ≤ Int.ofNat 0 - 1 := by decide
    have hone : (-(Int.ofNat 0 - 1)).toNat = 0 + 1 := rfl
    rw [if_neg hbelow, hone, nearestUnits_shift]
    simp
  · have hexponent : Int.ofNat (n + 1) - 1 = Int.ofNat n := by simp
    have hpower : digits * 10 * Nat.pow 10 n = digits * Nat.pow 10 (n + 1) := by
      rw [Nat.mul_assoc]
      exact congrArg (digits * ·) Nat.pow_succ'.symm
    have hbehind : ∀ m : Nat, 0 ≤ Int.ofNat m := Int.natCast_nonneg
    rw [hexponent, if_pos (hbehind n), if_pos (hbehind (n + 1))]
    simp only [Int.ofNat_eq_natCast, Int.toNat_natCast, hpower]
  · have hbelow : ¬ (0 : Int) ≤ Int.negSucc n - 1 := by omega
    have hbelow' : ¬ (0 : Int) ≤ Int.negSucc n := by omega
    have hexponent : (-(Int.negSucc n - 1)).toNat = (-Int.negSucc n).toNat + 1 := by omega
    rw [if_neg hbelow, if_neg hbelow', hexponent, nearestUnits_shift]

/-- A decimal reads as the same number with more zeros and the point as much further. -/
theorem ofDecimal_shift (negative : Bool) (digits : Nat) (exponent : Int) (zeros : Nat) :
    ofDecimal negative (digits * 10 ^ zeros) (exponent - zeros) = ofDecimal negative digits exponent := by
  induction zeros with
  | zero => simp
  | succ zeros ih =>
    have hdigits : digits * 10 ^ (zeros + 1) = digits * 10 ^ zeros * 10 := by
      rw [Nat.pow_succ, Nat.mul_assoc]
    have hexponent : exponent - ((zeros + 1 : Nat) : Int) = exponent - zeros - 1 := by omega
    rw [hdigits, hexponent, ofDecimal_mul_ten, ih]

end Compendium.Double
