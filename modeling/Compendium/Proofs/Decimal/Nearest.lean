import Compendium.Decimal.Shortest
import Compendium.Proofs.Decimal.Layout
import Compendium.Proofs.Decimal.Shortest
import Mathlib.Algebra.Order.Field.Basic
import Mathlib.Data.Rat.Lemmas
import Mathlib.Tactic.Linarith

/-!
# The double nearest to a number

Reading a decimal rounds it to the nearest double, and here it is rounded as a number: `nearest` is a
function of the rational number that the decimal stands for (`ofDecimal_eq`). It keeps order
(`nearest_le_nearest`), so what stands between two numbers that are read alike is read so too
(`nearest_between`); and it takes a number to every double that is close enough to it: the distance
need be no more than a part in `2 ^ 54` (`nearest_of_close`).
-/

namespace Compendium

namespace Double

/-! ## Order -/

section
variable {num den u : Nat}

theorem div_le_roundDiv (num den : Nat) : num / den ≤ roundDiv num den := by
  unfold roundDiv
  dsimp only
  split <;> omega

theorem roundDiv_le_roundDiv {num' : Nat} (h : num ≤ num') :
    roundDiv num den ≤ roundDiv num' den := by
  rcases Nat.lt_or_eq_of_le (Nat.div_le_div_right (c := den) h) with hlt | heq
  · exact Nat.le_trans (roundDiv_le num den) (Nat.le_trans hlt (div_le_roundDiv num' den))
  · have hnum := Nat.div_add_mod num den
    have hnum' := Nat.div_add_mod num' den
    rw [← heq] at hnum'
    have hrest : num % den ≤ num' % den := by omega
    unfold roundDiv
    dsimp only
    rw [← heq]
    split <;> split <;> omega

theorem log2_le_log2 {m n : Nat} (h : m ≤ n) : m.log2 ≤ n.log2 := by
  by_cases hm : m = 0
  · subst hm
    simp
  · exact (Nat.le_log2 (by omega)).2 (Nat.le_trans (Nat.log2_self_le hm) h)

theorem spacing_dvd_spacing {m n : Nat} (h : m.log2 ≤ n.log2) : spacing m ∣ spacing n :=
  Nat.pow_dvd_pow 2 (by omega)

theorem spacing_two_pow_dvd (k : Nat) : spacing (2 ^ k) ∣ 2 ^ k := by
  simpa using spacing_dvd_mul_pow (q := 1) (by decide) k

theorem nearestUnits_le_mul {m : Nat} (hden : 0 < den)
    (h : num ≤ m * spacing (num / den) * den) : nearestUnits num den ≤ m * spacing (num / den) := by
  have hstep : 0 < den * spacing (num / den) := Nat.mul_pos hden (spacing_pos _)
  rw [Nat.mul_assoc, Nat.mul_comm _ den] at h
  refine Nat.mul_le_mul_right _ ?_
  calc roundDiv num (den * spacing (num / den))
      ≤ roundDiv (m * (den * spacing (num / den))) (den * spacing (num / den)) := roundDiv_le_roundDiv h
    _ = m := roundDiv_mul_self hstep m

theorem mul_le_nearestUnits {m : Nat} (hden : 0 < den)
    (h : m * spacing (num / den) * den ≤ num) : m * spacing (num / den) ≤ nearestUnits num den := by
  have hstep : 0 < den * spacing (num / den) := Nat.mul_pos hden (spacing_pos _)
  rw [Nat.mul_assoc, Nat.mul_comm _ den] at h
  refine Nat.mul_le_mul_right _ ?_
  calc m = roundDiv (m * (den * spacing (num / den))) (den * spacing (num / den)) :=
        (roundDiv_mul_self hstep m).symm
    _ ≤ roundDiv num (den * spacing (num / den)) := roundDiv_le_roundDiv h

/-- A double that is not below a fraction is not below the double nearest to it. -/
theorem nearestUnits_le (hden : 0 < den) (hu : spacing u ∣ u) (h : num ≤ u * den) :
    nearestUnits num den ≤ u := by
  have hfloor : num / den ≤ u := Nat.div_le_of_le_mul (by rwa [Nat.mul_comm])
  obtain ⟨m, hm⟩ := (spacing_dvd_spacing (log2_le_log2 hfloor)).trans hu
  rw [Nat.mul_comm] at hm
  rw [hm] at h ⊢
  exact nearestUnits_le_mul hden h

/-- A double that is not above a fraction is not above the double nearest to it. -/
theorem le_nearestUnits (hden : 0 < den) (hu : spacing u ∣ u) (h : u * den ≤ num) :
    u ≤ nearestUnits num den := by
  have hfloor : u ≤ num / den := (Nat.le_div_iff_mul_le hden).2 h
  -- the double itself, or else the power of two between it and the fraction, is a whole number of steps
  obtain ⟨v, hv, huv, hvnum⟩ : ∃ v, spacing (num / den) ∣ v ∧ u ≤ v ∧ v * den ≤ num := by
    rcases Nat.lt_or_eq_of_le (log2_le_log2 hfloor) with hlt | heq
    · have hne : num / den ≠ 0 := by
        rintro hzero
        rw [hzero] at hlt
        simp at hlt
      have hpow : 2 ^ (num / den).log2 ≤ num / den := Nat.log2_self_le hne
      refine ⟨2 ^ (num / den).log2, Nat.pow_dvd_pow 2 (by omega), ?_, ?_⟩
      · calc u ≤ 2 ^ (u.log2 + 1) := Nat.le_of_lt Nat.lt_log2_self
          _ ≤ 2 ^ (num / den).log2 := Nat.pow_le_pow_right (by decide) hlt
      · exact (Nat.le_div_iff_mul_le hden).1 hpow
    · exact ⟨u, (spacing_dvd_spacing (Nat.le_of_eq heq.symm)).trans hu, Nat.le_refl u, h⟩
  obtain ⟨m, hm⟩ := hv
  rw [Nat.mul_comm] at hm
  rw [hm] at huv hvnum
  exact Nat.le_trans huv (mul_le_nearestUnits hden hvnum)

/-- Rounding keeps order. -/
theorem nearestUnits_le_nearestUnits {num' den' : Nat} (hden : 0 < den) (hden' : 0 < den')
    (h : num * den' ≤ num' * den) : nearestUnits num den ≤ nearestUnits num' den' := by
  have hfloor : num / den ≤ num' / den' := by
    rw [Nat.le_div_iff_mul_le hden']
    refine Nat.le_of_mul_le_mul_right ?_ hden
    calc num / den * den' * den = num / den * den * den' := Nat.mul_right_comm _ _ _
      _ ≤ num * den' := Nat.mul_le_mul_right _ (Nat.div_mul_le_self num den)
      _ ≤ num' * den := h
  rcases Nat.lt_or_eq_of_le (log2_le_log2 hfloor) with hlt | heq
  · -- a power of two stands between the two
    have hne : num' / den' ≠ 0 := by
      intro hzero
      rw [hzero] at hlt
      simp at hlt
    have hbelow : num < 2 ^ (num' / den').log2 * den := by
      rw [← Nat.div_lt_iff_lt_mul hden]
      exact Nat.lt_of_lt_of_le Nat.lt_log2_self (Nat.pow_le_pow_right (by decide) hlt)
    have habove : 2 ^ (num' / den').log2 * den' ≤ num' := by
      rw [← Nat.le_div_iff_mul_le hden']
      exact Nat.log2_self_le hne
    exact Nat.le_trans (nearestUnits_le hden (spacing_two_pow_dvd _) (Nat.le_of_lt hbelow))
      (le_nearestUnits hden' (spacing_two_pow_dvd _) habove)
  · have hstep : spacing (num / den) = spacing (num' / den') := by rw [spacing, spacing, heq]
    have hround : roundDiv (den' * num) (den' * (den * spacing (num' / den'))) ≤
        roundDiv (den * num') (den * (den' * spacing (num' / den'))) := by
      rw [Nat.mul_left_comm]
      refine roundDiv_le_roundDiv ?_
      rwa [Nat.mul_comm den', Nat.mul_comm den]
    rw [roundDiv_mul_left hden', roundDiv_mul_left hden] at hround
    simp only [nearestUnits, hstep]
    exact Nat.mul_le_mul_right _ hround

end

/-! ## Nearest to a rational number -/

theorem one_positive : 0 < one := by decide +kernel

theorem one_cast_pos : (0 : ℚ) < one := Nat.cast_pos.2 one_positive

/-- The number that so many units come to. -/
def size (units : Nat) : ℚ := units / one

/-- The number of units of the double nearest to a number that is not negative. -/
def nearest (q : ℚ) : Nat := nearestUnits (q.num.toNat * one) q.den

theorem nearest_div (num : Nat) {den : Nat} (hden : 0 < den) :
    nearest (num / den) = nearestUnits (num * one) den := by
  have hq : (0 : ℚ) ≤ num / den := div_nonneg (Nat.cast_nonneg _) (Nat.cast_nonneg _)
  obtain ⟨n, hn⟩ : ∃ n : Nat, ((num : ℚ) / den).num = n := Int.eq_ofNat_of_zero_le (Rat.num_nonneg.2 hq)
  obtain ⟨m, hm⟩ : ∃ m, m = ((num : ℚ) / den).den := ⟨_, rfl⟩
  have hmpos : 0 < m := hm ▸ Rat.den_pos _
  have hcross : num * m = n * den := by
    have hself := Rat.num_div_den ((num : ℚ) / den)
    rw [hn, ← hm, Int.cast_natCast, div_eq_div_iff (Nat.cast_ne_zero.2 (Nat.ne_of_gt hmpos))
      (Nat.cast_ne_zero.2 (Nat.ne_of_gt hden))] at hself
    exact_mod_cast hself.symm
  have hnum : den * (n * one) = m * (num * one) := by
    rw [← Nat.mul_assoc, ← Nat.mul_assoc, Nat.mul_comm den, ← hcross, Nat.mul_comm num]
  rw [nearest, hn, ← hm, Int.toNat_natCast, ← nearestUnits_mul_left hden, hnum, Nat.mul_comm den,
    nearestUnits_mul_left hmpos]

theorem nearest_le_nearest {p q : ℚ} (h : p ≤ q) : nearest p ≤ nearest q := by
  refine nearestUnits_le_nearestUnits p.den_pos q.den_pos ?_
  have hcross := (Rat.le_iff p q).1 h
  have hnum : p.num.toNat * q.den ≤ q.num.toNat * p.den := by
    rcases Int.le_total 0 p.num with hp | hp
    · have hq : 0 ≤ q.num := Rat.num_nonneg.2 ((Rat.num_nonneg.1 hp).trans h)
      rw [← Int.toNat_of_nonneg hp, ← Int.toNat_of_nonneg hq] at hcross
      exact_mod_cast hcross
    · simp [Int.toNat_eq_zero.2 hp]
  rw [Nat.mul_right_comm, Nat.mul_right_comm q.num.toNat]
  exact Nat.mul_le_mul_right one hnum

/-- What stands between two numbers that are rounded alike is rounded so too. -/
theorem nearest_between {p q r : ℚ} {units : Nat} (hp : nearest p = units) (hr : nearest r = units)
    (hpq : p ≤ q) (hqr : q ≤ r) : nearest q = units :=
  Nat.le_antisymm (hr ▸ nearest_le_nearest hqr) (hp ▸ nearest_le_nearest hpq)

/-- A double is nearest to itself. -/
theorem nearest_size {units : Nat} (h : spacing units ∣ units) : nearest (size units) = units := by
  rw [size, nearest_div units one_positive, nearestUnits_of_spacing_dvd one_positive h]

/-- What is rounded to a double is above the double before it. -/
theorem lt_of_nearest {units : Nat} {q : ℚ} (hspaced : spacing units ∣ units) (hpos : 0 < units)
    (hq : nearest q = units) : size (units - spacing units) < q := by
  by_contra hle
  have hbelow : spacing (units - spacing units) ∣ units - spacing units :=
    (spacing_dvd_spacing (log2_le_log2 (Nat.sub_le _ _))).trans (Nat.dvd_sub hspaced (Nat.dvd_refl _))
  have hround := nearest_le_nearest (le_of_not_gt hle)
  rw [nearest_size hbelow, hq] at hround
  have hstep := spacing_pos units
  omega

end Double

/-! ## Decimals as numbers -/

namespace Decimal

def count (d : Decimal) : Nat := (Nat.toDigits 10 d.digits).length

variable {d : Decimal}

theorem count_pos (d : Decimal) : 0 < d.count := List.length_pos_iff.2 Nat.toDigits_ne_nil

theorem point_eq (d : Decimal) : d.point = d.count + d.exponent := rfl

theorem count_le_iff {k : Nat} (hk : 0 < k) : d.count ≤ k ↔ d.digits < 10 ^ k :=
  Nat.length_toDigits_le_iff (by decide) hk

theorem digits_lt (d : Decimal) : d.digits < 10 ^ d.count := (count_le_iff d.count_pos).1 (Nat.le_refl _)

theorem le_digits (hpos : 0 < d.digits) : 10 ^ (d.count - 1) ≤ d.digits := by
  rcases Nat.eq_zero_or_pos (d.count - 1) with hone | hmore
  · rw [hone]
    exact hpos
  · rw [← Nat.not_lt, ← count_le_iff hmore]
    omega

theorem count_eq {k : Nat} (hk : 0 < k) (hlow : 10 ^ (k - 1) ≤ d.digits) (hhigh : d.digits < 10 ^ k) :
    d.count = k := by
  have hle := (count_le_iff hk).2 hhigh
  have hpos := d.count_pos
  by_contra hne
  have hlt : d.count ≤ k - 1 := by omega
  exact Nat.not_lt.2 hlow ((count_le_iff (by omega)).1 hlt)

theorem count_one (k : Int) : (⟨1, k⟩ : Decimal).count = 1 :=
  count_eq Nat.one_pos (Nat.le_refl 1) (Nat.lt_succ_of_le (Nat.le_add_left 1 8))

def value (d : Decimal) : ℚ := d.digits * 10 ^ d.exponent

theorem ten_pow_pos (k : ℤ) : (0 : ℚ) < 10 ^ k := zpow_pos (by norm_num) k

theorem ten_pow_le_iff {j k : ℤ} : (10 : ℚ) ^ j ≤ 10 ^ k ↔ j ≤ k :=
  zpow_le_zpow_iff_right₀ (by norm_num)

theorem ten_pow_lt_iff {j k : ℤ} : (10 : ℚ) ^ j < 10 ^ k ↔ j < k :=
  zpow_lt_zpow_iff_right₀ (by norm_num)

theorem ten_pow_add (j k : ℤ) : (10 : ℚ) ^ (j + k) = 10 ^ j * 10 ^ k := zpow_add₀ (by norm_num) j k

theorem ten_pow_neg (j : Nat) : (10 : ℚ) ^ (-(j : Int)) = 1 / 10 ^ j := by
  rw [zpow_neg, zpow_natCast, one_div]

theorem value_nonneg (d : Decimal) : 0 ≤ d.value :=
  mul_nonneg (Nat.cast_nonneg _) (le_of_lt (ten_pow_pos _))

theorem value_lt (d : Decimal) : d.value < 10 ^ d.point := by
  rw [value, point_eq, ten_pow_add, zpow_natCast]
  exact mul_lt_mul_of_pos_right (by exact_mod_cast d.digits_lt) (ten_pow_pos _)

theorem le_value (hpos : 0 < d.digits) : 10 ^ (d.point - 1) ≤ d.value := by
  have hpoint : d.point - 1 = (d.count - 1 : Nat) + d.exponent := by
    have hcount := d.count_pos
    rw [point_eq]
    omega
  rw [value, hpoint, ten_pow_add, zpow_natCast]
  exact mul_le_mul_of_nonneg_right (by exact_mod_cast le_digits hpos) (le_of_lt (ten_pow_pos _))

theorem ten_pow_le_value_iff (hpos : 0 < d.digits) {j : Int} : 10 ^ j ≤ d.value ↔ j < d.point := by
  constructor
  · intro hle
    exact ten_pow_lt_iff.1 (hle.trans_lt d.value_lt)
  · intro hlt
    exact (ten_pow_le_iff.2 (by omega)).trans (le_value hpos)

end Decimal

namespace Double

/-! ## Reading decimals -/

theorem nearest_value_of_nonneg {d : Decimal} (h : 0 ≤ d.exponent) :
    nearest d.value = nearestUnits (d.digits * Nat.pow 10 d.exponent.toNat * one) 1 := by
  have hvalue : d.value = (d.digits * 10 ^ d.exponent.toNat : Nat) / (1 : Nat) := by
    rw [Decimal.value, ← Int.toNat_of_nonneg h, zpow_natCast, Int.toNat_natCast]
    simp
  rw [hvalue, nearest_div _ (by decide)]
  rfl

theorem nearest_value_of_neg {d : Decimal} (h : d.exponent < 0) :
    nearest d.value = nearestUnits (d.digits * one) (Nat.pow 10 (-d.exponent).toNat) := by
  obtain ⟨k, hk⟩ : ∃ k : Nat, -d.exponent = k := Int.eq_ofNat_of_zero_le (by omega)
  have hvalue : d.value = d.digits / (10 ^ k : Nat) := by
    rw [Decimal.value, ← neg_neg d.exponent, hk, zpow_neg, zpow_natCast]
    simp [div_eq_mul_inv]
  rw [hvalue, nearest_div _ (Nat.pow_pos (by decide)), hk]
  rfl

theorem value_one (k : ℤ) : (⟨1, k⟩ : Decimal).value = 10 ^ k := by simp [Decimal.value]

/-- So small a number is nearest to zero. -/
theorem nearest_of_small {q : ℚ} (h : q ≤ 10 ^ (-400 : ℤ)) : nearest q = 0 := by
  have hzero : nearest (10 ^ (-400 : ℤ)) = 0 := by
    rw [← value_one, nearest_value_of_neg (by decide)]
    decide +kernel
  have hle := nearest_le_nearest h
  omega

/-- So large a number is out of range. -/
theorem bound_le_nearest_of_large {q : ℚ} (h : 10 ^ (400 : ℤ) ≤ q) : bound ≤ nearest q := by
  have hbound : bound ≤ nearest (10 ^ (400 : ℤ)) := by
    rw [← value_one, nearest_value_of_nonneg (by decide)]
    decide +kernel
  exact Nat.le_trans hbound (nearest_le_nearest h)

/-- A decimal is read as the double nearest to it, however long it is. -/
theorem ofDecimal_eq (d : Decimal) :
    ofDecimal false d.digits d.exponent = ofUnits false (nearest d.value) := by
  have hpoint : ((Nat.toDigits 10 d.digits).length : Int) + d.exponent = d.point := rfl
  unfold ofDecimal
  dsimp only
  rw [hpoint]
  split
  · rename_i hsmall
    have hle : d.value ≤ 10 ^ (-400 : ℤ) := by
      rcases hsmall with hzero | hsmall
      · rw [Decimal.value, hzero, Nat.cast_zero, zero_mul]
        exact le_of_lt (Decimal.ten_pow_pos _)
      · exact le_of_lt (d.value_lt.trans (Decimal.ten_pow_lt_iff.2 hsmall))
    rw [nearest_of_small hle, ofUnits, if_pos bound_pos]
  · rename_i hsmall
    have hpos : 0 < d.digits := Nat.pos_of_ne_zero fun hzero => hsmall (Or.inl hzero)
    split
    · rename_i hlarge
      have hle : 10 ^ (400 : ℤ) ≤ d.value :=
        (Decimal.ten_pow_le_iff.2 (by omega)).trans (Decimal.le_value hpos)
      rw [ofUnits, if_neg (Nat.not_lt.2 (bound_le_nearest_of_large hle))]
    · split
      · rename_i hexponent
        rw [nearest_value_of_nonneg hexponent]
      · rename_i hexponent
        rw [nearest_value_of_neg (Int.not_le.1 hexponent)]

/-- A decimal reads back as a double just if the double is nearest to it. -/
theorem readsBack_iff_nearest {units : Nat} (hbound : units < bound) {d : Decimal} :
    readsBack units d = true ↔ nearest d.value = units := by
  rw [readsBack_iff, ofDecimal_eq, ofUnits]
  split
  · rw [Double.finite.injEq, eq_self_iff_true, true_and]
  · rename_i hlarge
    simp only [reduceCtorEq, false_iff]
    omega

/-! ## How near is near enough -/

section
variable {num den u : Nat}

theorem roundDiv_eq_of_close {m : Nat} (hbelow : 2 * num < 2 * (m * den) + den)
    (habove : 2 * (m * den) < 2 * num + den) : roundDiv num den = m := by
  have hnum := Nat.div_add_mod num den
  have hrest : num % den < den := Nat.mod_lt num (by omega)
  obtain ⟨q, hq⟩ : ∃ q, q = num / den := ⟨_, rfl⟩
  rw [← hq, Nat.mul_comm] at hnum
  have hm : m = q ∨ m = q + 1 := by
    rcases Nat.lt_trichotomy m q with hlt | rfl | hgt
    · have hle := Nat.mul_le_mul_right den (Nat.succ_le_of_lt hlt)
      rw [Nat.succ_mul] at hle
      omega
    · exact Or.inl rfl
    · rcases Nat.lt_or_eq_of_le (Nat.succ_le_of_lt hgt) with hlt | heq
      · have hle := Nat.mul_le_mul_right den (Nat.succ_le_of_lt hlt)
        rw [Nat.succ_mul, Nat.succ_mul] at hle
        omega
      · exact Or.inr heq.symm
  unfold roundDiv
  dsimp only
  rw [← hq]
  rcases hm with rfl | rfl
  · rw [if_pos (Or.inl (by omega))]
  · rw [Nat.add_mul, Nat.one_mul] at hbelow habove
    rw [if_neg (by omega)]

theorem lt_spacing (n : Nat) : n < 2 ^ 53 * spacing n := by
  rw [← Nat.div_lt_iff_lt_mul (spacing_pos n)]
  exact div_spacing_lt n

theorem two_pow_log2 {n : Nat} (h : 52 ≤ n.log2) : 2 ^ n.log2 = 2 ^ 52 * spacing n := by
  have hlog : n.log2 = 52 + (n.log2 - 52) := by omega
  rw [hlog, Nat.pow_add]
  rfl

/-- A fraction that is close to a double and below the power of two that the double is not below: the
double is that power of two, unless it is small. -/
theorem eq_two_pow_of_close (hu : spacing u ∣ u) (hlog : 52 ≤ u.log2) (hden : 0 < den)
    (hlow : 2 ^ u.log2 ≤ u) (hnum : num < 2 ^ u.log2 * den)
    (habove : u * den * (2 ^ 54 - 1) < num * 2 ^ 54) : u = 2 ^ u.log2 := by
  have hpower := two_pow_log2 hlog
  have hstep : 0 < spacing u * den := Nat.mul_pos (spacing_pos u) hden
  by_contra hne
  have hnext : 2 ^ u.log2 + spacing u ≤ u := by
    have hdvd : spacing u ∣ u - 2 ^ u.log2 := by
      refine Nat.dvd_sub hu ?_
      rw [hpower]
      exact Nat.dvd_mul_left _ _
    have hle := Nat.le_of_dvd (by omega) hdvd
    omega
  have hscaled := Nat.mul_le_mul_right den hnext
  rw [hpower, Nat.add_mul, Nat.mul_assoc] at hscaled
  rw [hpower, Nat.mul_assoc] at hnum
  omega

/-- A fraction close to a double does not have more bits: it would be above the next double. -/
theorem log2_le_of_close (hu : spacing u ∣ u) (hden : 0 < den)
    (hbelow : num * 2 ^ 54 < u * den * (2 ^ 54 + 1)) : (num / den).log2 ≤ u.log2 := by
  by_contra hgt
  have hfloor : 2 ^ (u.log2 + 1) ≤ num / den := by
    refine Nat.le_trans (Nat.pow_le_pow_right (by decide) (Nat.lt_of_not_le hgt)) (Nat.log2_self_le ?_)
    intro hzero
    rw [hzero] at hgt
    simp at hgt
  have hnext : u + spacing u ≤ 2 ^ (u.log2 + 1) := by
    have hhigh : u < 2 ^ (u.log2 + 1) := Nat.lt_log2_self
    have hdvd : spacing u ∣ 2 ^ (u.log2 + 1) - u := Nat.dvd_sub (Nat.pow_dvd_pow 2 (by omega)) hu
    have hle := Nat.le_of_dvd (by omega) hdvd
    omega
  have hnum := (Nat.le_div_iff_mul_le hden).1 (Nat.le_trans hnext hfloor)
  rw [Nat.add_mul] at hnum
  have hsmall := Nat.mul_le_mul_right den (Nat.le_of_lt (lt_spacing u))
  rw [Nat.mul_assoc] at hsmall
  have hstep : 0 < spacing u * den := Nat.mul_pos (spacing_pos u) hden
  omega

/-- If a fraction close to a long double has fewer bits, the double is a power of two and the fraction
stands in the finer spacing below it. -/
theorem spacing_of_close_below (hu : spacing u ∣ u) (hpos : 0 < u) (hden : 0 < den)
    (habove : u * den * (2 ^ 54 - 1) < num * 2 ^ 54) (hlong : 53 ≤ u.log2)
    (hlt : (num / den).log2 < u.log2) : u = 2 ^ 53 * spacing (num / den) := by
  have hfloor : num / den < 2 ^ u.log2 := Nat.lt_of_lt_of_le Nat.lt_log2_self
    (Nat.pow_le_pow_right (by decide) hlt)
  have hpower := eq_two_pow_of_close hu (by omega) hden (Nat.log2_self_le (Nat.ne_of_gt hpos))
    ((Nat.div_lt_iff_lt_mul hden).1 hfloor) habove
  obtain ⟨k, hk⟩ : ∃ k, u.log2 = k + 53 := ⟨u.log2 - 53, by omega⟩
  have hhalf : 2 ^ (k + 52) ≤ num / den := by
    have hdouble : u * den = 2 * (2 ^ (k + 52) * den) := by
      rw [hpower, hk, ← Nat.mul_assoc, ← Nat.pow_succ']
    rw [Nat.le_div_iff_mul_le hden]
    generalize 2 ^ (k + 52) * den = half at hdouble ⊢
    omega
  have hlog : (num / den).log2 = k + 52 := by
    have hne : num / den ≠ 0 := Nat.ne_of_gt (Nat.lt_of_lt_of_le (Nat.two_pow_pos _) hhalf)
    rw [hk] at hfloor
    exact (Nat.log2_eq_iff hne).2 ⟨hhalf, hfloor⟩
  have hspacing : spacing (num / den) = 2 ^ k := by
    rw [spacing, hlog, Nat.add_sub_cancel]
    rfl
  rw [hspacing, ← Nat.pow_add, Nat.add_comm, ← hk, ← hpower]

section
variable (hu : spacing u ∣ u) (hpos : 0 < u) (hden : 0 < den)
  (hbelow : num * 2 ^ 54 < u * den * (2 ^ 54 + 1)) (habove : u * den * (2 ^ 54 - 1) < num * 2 ^ 54)
include hu hpos hden hbelow habove

/-- A fraction close to a double is rounded to a spacing that the double is a small number of. -/
theorem spacing_of_close : spacing (num / den) ∣ u ∧ u ≤ 2 ^ 53 * spacing (num / den) := by
  rcases Nat.lt_or_eq_of_le (log2_le_of_close hu hden hbelow) with hlt | heq
  · rcases Nat.lt_or_ge u.log2 53 with hshort | hlong
    · -- both are spaced by one unit
      have hone : spacing (num / den) = 1 := by
        have hzero : (num / den).log2 - 52 = 0 := by omega
        rw [spacing, hzero, Nat.pow_eq, Nat.pow_zero]
      have hhigh : u < 2 ^ (u.log2 + 1) := Nat.lt_log2_self
      have hpower : (2 : Nat) ^ (u.log2 + 1) ≤ 2 ^ 53 := Nat.pow_le_pow_right (by decide) (by omega)
      rw [hone]
      exact ⟨Nat.one_dvd u, by omega⟩
    · have heq := spacing_of_close_below hu hpos hden habove hlong hlt
      exact ⟨Dvd.intro_left _ heq.symm, Nat.le_of_eq heq⟩
  · have hspacing : spacing (num / den) = spacing u := by rw [spacing, spacing, heq]
    rw [hspacing]
    exact ⟨hu, Nat.le_of_lt (lt_spacing u)⟩

/-- A fraction close to a double is rounded to it: its distance is less than a part in `2 ^ 54`. -/
theorem nearestUnits_of_close : nearestUnits num den = u := by
  obtain ⟨⟨m, hm⟩, hsize⟩ := spacing_of_close hu hpos hden hbelow habove
  rw [Nat.mul_comm] at hm
  have hround : roundDiv num (den * spacing (num / den)) = m := by
    have hscaled := Nat.mul_le_mul_right den hsize
    have hstep : m * (den * spacing (num / den)) = u * den := by
      rw [Nat.mul_comm den, ← Nat.mul_assoc, ← hm]
    rw [Nat.mul_assoc, Nat.mul_comm (spacing _) den] at hscaled
    refine roundDiv_eq_of_close ?_ ?_ <;> rw [hstep] <;> omega
  rw [nearestUnits, hround, ← hm]

end

theorem cross_of_close {n d w : Nat} (hd : 0 < d) (hw : 0 < w)
    (h : |(n : ℚ) / d - u / w| * 2 ^ 54 < u / w) :
    n * w * 2 ^ 54 < u * d * (2 ^ 54 + 1) ∧ u * d * (2 ^ 54 - 1) < n * w * 2 ^ 54 := by
  have hd' : (0 : ℚ) < d := Nat.cast_pos.2 hd
  have hw' : (0 : ℚ) < w := Nat.cast_pos.2 hw
  rw [div_sub_div _ _ (ne_of_gt hd') (ne_of_gt hw'), abs_div, abs_of_pos (mul_pos hd' hw'),
    div_mul_eq_mul_div, div_lt_div_iff₀ (mul_pos hd' hw') hw', ← mul_assoc (u : ℚ),
    mul_lt_mul_iff_left₀ hw', ← lt_div_iff₀ (by norm_num), abs_lt] at h
  obtain ⟨habove, hbelow⟩ := h
  constructor
  · have hcross : (n : ℚ) * w * 2 ^ 54 < u * d * (2 ^ 54 + 1) := by linarith
    exact_mod_cast hcross
  · have hcross : (u : ℚ) * d * 2 ^ 54 < n * w * 2 ^ 54 + u * d := by linarith
    have hcross' : u * d * 2 ^ 54 < n * w * 2 ^ 54 + u * d := by exact_mod_cast hcross
    rw [Nat.mul_sub, Nat.mul_one]
    omega

/-- A number close to a double is rounded to it. -/
theorem nearest_of_close {q : ℚ} (hq : 0 ≤ q) (hu : spacing u ∣ u) (hpos : 0 < u)
    (h : |q - size u| * 2 ^ 54 < size u) : nearest q = u := by
  obtain ⟨n, hn⟩ : ∃ n : Nat, q.num = n := Int.eq_ofNat_of_zero_le (Rat.num_nonneg.2 hq)
  have hvalue : q = n / q.den := by
    have hself := Rat.num_div_den q
    rw [hn, Int.cast_natCast] at hself
    exact hself.symm
  have hclose : |(n : ℚ) / q.den - u / one| * 2 ^ 54 < u / one := by
    rw [← hvalue]
    exact h
  obtain ⟨hbelow, habove⟩ := cross_of_close q.den_pos one_positive hclose
  rw [nearest, hn, Int.toNat_natCast]
  exact nearestUnits_of_close hu hpos q.den_pos hbelow habove

end

end Double

end Compendium
