import Compendium.Proofs.Decimal.Fewest

/-!
# Numbers in a browser

A browser shows the shortest decimal of a number too, and lays it out by its own rules: around a point
from `10 ^ -6` up to but not at `10 ^ 21`, a whole number without a point, and elsewhere with an
exponent of no more digits than it has (`browserChars`). Beside it stand the plain layout and the whole
numbers written out. The plain layout of a number with a fraction is that of a browser where both put
the same zeros (`layOut_eq_browserChars_iff`), and a whole number written out is one where it is its own
shortest decimal (`toDigits_eq_browserChars_iff`), as all of up to 53 bits are (`value_eq_of_small`).
-/

namespace Compendium

theorem toDigits_mul_ten_pow {n : Nat} (h : 0 < n) (zeros : Nat) :
    Nat.toDigits 10 (n * 10 ^ zeros) = Nat.toDigits 10 n ++ List.replicate zeros '0' := by
  induction zeros with
  | zero => simp
  | succ zeros ih =>
    have hpos : 0 < n * 10 ^ zeros := Nat.mul_pos h (Nat.pow_pos (by decide))
    have hlast : Nat.toDigits 10 0 = ['0'] := by decide
    rw [List.replicate_succ', ← List.append_assoc, ← ih, Nat.pow_succ, ← Nat.mul_assoc, Nat.mul_comm _ 10,
      ← Nat.add_zero (10 * _), ← Nat.toDigits_append_toDigits (by decide) hpos (by decide), hlast]

namespace Decimal

/-! ## Layouts -/

/-- Digits with a point behind the first one. -/
def mantissa : List Char → List Char
  | first :: second :: rest => first :: '.' :: second :: rest
  | short => short

/-- Digits with a power of ten behind them. -/
def withPower (digits : List Char) (power : Int) (exponent : List Char) : List Char :=
  mantissa digits ++ 'e' :: (if power < 0 then '-' else '+') :: exponent

/-- A decimal as a browser shows it. -/
def browserChars (d : Decimal) : List Char :=
  let digits := Nat.toDigits 10 d.digits
  if d.count ≤ d.point ∧ d.point ≤ 21 then digits ++ List.replicate (d.point.toNat - d.count) '0'
  else if 0 < d.point ∧ d.point ≤ 21 then digits.take d.point.toNat ++ '.' :: digits.drop d.point.toNat
  else if -6 < d.point ∧ d.point ≤ 0 then '0' :: '.' :: (List.replicate (-d.point).toNat '0' ++ digits)
  else withPower digits (d.point - 1) (Nat.toDigits 10 (d.point - 1).natAbs)

section
variable {d e : Decimal}

theorem layOut_plain (d : Decimal) : d.layOut .plain =
    if -4 ≤ d.point - 1 ∧ d.point - 1 < 16 then
      if d.point ≤ 0 then '0' :: '.' :: (List.replicate (-d.point).toNat '0' ++ d.significant)
      else if d.significant.length ≤ d.point.toNat then
        d.significant ++ List.replicate (d.point.toNat - d.significant.length) '0' ++ ['.', '0']
      else d.significant.take d.point.toNat ++ '.' :: d.significant.drop d.point.toNat
    else withPower d.significant (d.point - 1) (padZeros 2 (Nat.toDigits 10 (d.point - 1).natAbs)) := rfl

/-- Without a zero in front an exponent is itself only if it has two digits. -/
theorem padZeros_two_eq_iff {n : Nat} : padZeros 2 (Nat.toDigits 10 n) = Nat.toDigits 10 n ↔ 10 ≤ n := by
  have hshort := Nat.length_toDigits_le_iff (b := 10) (n := n) (by decide) Nat.one_pos
  rw [Nat.pow_one] at hshort
  rw [padZeros, List.append_left_eq_self, List.replicate_eq_nil_iff]
  omega

theorem withPower_inj {digits exponent exponent' : List Char} {power : Int} :
    withPower digits power exponent = withPower digits power exponent' ↔ exponent = exponent' := by
  simp [withPower]

theorem head?_withPower {digits : List Char} (h : digits ≠ []) (power : Int) (exponent : List Char) :
    (withPower digits power exponent).head? = digits.head? := by
  match digits, h with
  | [c], _ => rfl
  | c :: c' :: cs, _ => rfl

/-- A number with a fraction looks alike in both layouts where both write it around a point, and where
the exponent has two digits. -/
theorem layOut_eq_browserChars_iff (hdigits : e.significant = Nat.toDigits 10 d.digits)
    (hpoint : e.point = d.point) (hpos : 0 < d.digits) (hfraction : d.point < d.count)
    (hsmall : d.point ≤ 16) :
    e.layOut .plain = d.browserChars ↔ -3 ≤ d.point ∨ d.point ≤ -9 := by
  have hlength : (Nat.toDigits 10 d.digits).length = d.count := rfl
  rw [layOut_plain, hdigits, hpoint, browserChars]
  rw [if_neg (c := d.count ≤ d.point ∧ d.point ≤ 21) (by omega)]
  rcases Int.lt_or_le d.point (-3) with hlow | hhigh
  · rw [if_neg (c := 0 < d.point ∧ d.point ≤ 21) (by omega),
      if_neg (c := -4 ≤ d.point - 1 ∧ d.point - 1 < 16) (by omega)]
    rcases Int.lt_or_le (-6) d.point with hplain | hpower
    · -- a browser writes zeros in front
      rw [if_pos ⟨hplain, by omega⟩]
      refine iff_of_false (fun heq => ?_) (by omega)
      have hhead := congrArg List.head? heq
      rw [head?_withPower Nat.toDigits_ne_nil, List.head?_cons] at hhead
      exact Json.head?_toDigits hpos hhead
    · rw [if_neg (by omega), withPower_inj, padZeros_two_eq_iff]
      omega
  · rw [if_pos (c := -4 ≤ d.point - 1 ∧ d.point - 1 < 16) (by omega)]
    refine iff_of_true ?_ (Or.inl hhigh)
    rcases Int.lt_or_le 0 d.point with habove | hbelow
    · rw [if_neg (by omega), if_neg (by omega), if_pos (by omega)]
    · rw [if_pos hbelow, if_neg (by omega), if_pos (by omega)]

/-- The decimals that stand for a whole number are those with no digit behind the point. -/
theorem value_eq_natCast_iff {w : Nat} (hlast : ¬ 10 ∣ d.digits) :
    d.value = w ↔ ∃ zeros : Nat, d.exponent = zeros ∧ w = d.digits * 10 ^ zeros := by
  constructor
  · intro hvalue
    rcases Int.lt_or_le d.exponent 0 with hneg | hnonneg
    · obtain ⟨k, hk⟩ : ∃ k : Nat, -d.exponent = (k + 1 : Nat) := ⟨(-d.exponent - 1).toNat, by omega⟩
      have hexponent : d.exponent = -((k + 1 : Nat) : Int) := by omega
      rw [value, hexponent, zpow_neg, zpow_natCast, ← div_eq_mul_inv,
        div_eq_iff (pow_ne_zero _ (by norm_num))] at hvalue
      have hdigits : d.digits = w * 10 ^ (k + 1) := by exact_mod_cast hvalue
      exact absurd (hdigits ▸ Dvd.dvd.mul_left (dvd_pow_self 10 (Nat.succ_ne_zero k)) w) hlast
    · obtain ⟨zeros, hzeros⟩ := Int.eq_ofNat_of_zero_le hnonneg
      refine ⟨zeros, hzeros, ?_⟩
      rw [value, hzeros, zpow_natCast] at hvalue
      exact_mod_cast hvalue.symm
  · rintro ⟨zeros, hzeros, rfl⟩
    rw [value, hzeros, zpow_natCast]
    push_cast
    rfl

/-- A whole number written out is what a browser shows just if it is its own shortest decimal. -/
theorem toDigits_eq_browserChars_iff {w : Nat} (hpos : 0 < d.digits) (hlast : ¬ 10 ∣ d.digits) :
    Nat.toDigits 10 w = d.browserChars ↔ d.point ≤ 21 ∧ d.value = w := by
  have hpoint := d.point_eq
  rw [value_eq_natCast_iff hlast]
  constructor
  · intro heq
    have hdigit : ∀ c ∈ d.browserChars, c.isDigit = true :=
      fun c hc => Json.isDigit_of_mem_toDigits (heq ▸ hc)
    rw [browserChars] at heq hdigit
    split at heq
    · rename_i hwhole
      rw [← toDigits_mul_ten_pow hpos] at heq
      refine ⟨hwhole.2, _, ?_, by simpa using congrArg (Nat.ofDigitChars 10 · 0) heq⟩
      omega
    · -- the other layouts have a character that is no digit
      rename_i hwhole
      rw [if_neg hwhole] at hdigit
      split at hdigit
      · exact absurd (hdigit '.' (by simp)) (by decide)
      · split at hdigit
        · exact absurd (hdigit '.' (by simp)) (by decide)
        · exact absurd (hdigit 'e' (by simp [withPower])) (by decide)
  · rintro ⟨hlimit, zeros, hzeros, rfl⟩
    have hbehind : d.point.toNat - d.count = zeros := by omega
    rw [browserChars, if_pos ⟨by omega, hlimit⟩, hbehind, toDigits_mul_ten_pow hpos]

end

end Decimal

namespace Double

/-! ## Whole numbers -/

theorem size_mul_one (n : Nat) : size (n * one) = n := by
  rw [size, Nat.cast_mul, mul_div_cancel_right₀ _ (Nat.cast_ne_zero.2 (Nat.ne_of_gt one_positive))]

theorem exists_one_eq_two_pow : ∃ k, one = 2 ^ k := ⟨1074, by decide +kernel⟩

/-- Whole numbers of up to 53 bits are doubles. -/
theorem nearest_natCast {n : Nat} (h : n ≤ 2 ^ 53) : nearest n = n * one := by
  have hspaced : spacing (n * one) ∣ n * one := by
    obtain ⟨k, hk⟩ := exists_one_eq_two_pow
    rw [hk]
    exact spacing_dvd_mul_pow h k
  rw [← size_mul_one n, nearest_size hspaced]

/-- Large doubles are whole. -/
theorem one_dvd_of_large {units : Nat} (hspaced : spacing units ∣ units) (h : 2 ^ 53 * one ≤ units) :
    one ∣ units := by
  have hlarge : one ∣ spacing (2 ^ 53 * one) := by decide +kernel
  exact (hlarge.trans (spacing_dvd_spacing (log2_le_log2 h))).trans hspaced

/-- What is nearest to a whole number is whole. -/
theorem one_dvd_nearest (n : Nat) : one ∣ nearest n := by
  rcases Nat.le_total n (2 ^ 53) with hle | hge
  · rw [nearest_natCast hle]
    exact Nat.dvd_mul_left one n
  · have hround : nearest ((2 ^ 53 : Nat) : ℚ) ≤ nearest n := nearest_le_nearest (Nat.cast_le.2 hge)
    rw [nearest_natCast (Nat.le_refl _)] at hround
    exact one_dvd_of_large (spacing_dvd_nearestUnits _ _) hround

/-! ## Shortest decimals -/

/-- A power of ten that a double is not below is not above its shortest decimal: it would read back,
and it has one digit. -/
theorem IsShortest.ten_pow_le_value {units : Nat} {d : Decimal} (hd : IsShortest units d)
    (hbound : units < bound) (hspaced : spacing units ∣ units) {j : Int} (h : 10 ^ j ≤ size units) :
    10 ^ j ≤ d.value := by
  by_contra hlt
  have hreads : readsBack units ⟨1, j⟩ = true := by
    rw [readsBack_iff_nearest hbound, value_one]
    exact nearest_between (hd.nearest_eq hbound) (nearest_size hspaced) (le_of_not_ge hlt) h
  have hcount : (⟨1, j⟩ : Decimal).count = d.count := by
    have hfewest := hd.fewest _ hreads
    have hmany := d.count_pos
    rw [Decimal.count_one] at hfewest ⊢
    omega
  have hnear := hd.nearest _ hreads hcount
  rw [value_one, abs_of_nonpos (by linarith), abs_of_nonpos (by linarith)] at hnear
  linarith

section
variable {units : Nat} {d : Decimal} (hpos : 0 < units) (hbound : units < bound)
  (hspaced : spacing units ∣ units) (hd : IsShortest units d)
include hpos hbound hspaced hd

/-- The shortest decimal of a number with a fraction has a digit behind the point, and not too many
before it. -/
theorem fraction_bounds (hfraction : ¬ one ∣ units) : d.point < d.count ∧ d.point ≤ 16 := by
  have hreads := hd.nearest_eq hbound
  constructor
  · by_contra hwhole
    have hvalue := (Decimal.value_eq_natCast_iff (hd.not_dvd hpos hbound)).2
      ⟨d.exponent.toNat, by have := d.point_eq; omega, rfl⟩
    rw [hvalue] at hreads
    exact hfraction (hreads ▸ one_dvd_nearest _)
  · by_contra hlarge
    have hle : 10 ^ (16 : Int) ≤ d.value :=
      (Decimal.ten_pow_le_value_iff (hd.digits_pos hpos)).2 (by omega)
    have hround := nearest_le_nearest (p := (2 ^ 53 : Nat)) (le_trans (by norm_num) hle)
    rw [nearest_natCast (Nat.le_refl _), hreads] at hround
    exact hfraction (one_dvd_of_large hspaced hround)

/-- A double is on the same side of a power of ten as its shortest decimal, unless the power is rounded
down. -/
theorem ten_pow_le_size_iff {j : Int} (hround : 10 ^ j ≤ size (nearest (10 ^ j))) :
    10 ^ j ≤ size units ↔ j < d.point := by
  rw [← Decimal.ten_pow_le_value_iff (hd.digits_pos hpos)]
  refine ⟨hd.ten_pow_le_value hbound hspaced, fun hle => ?_⟩
  by_contra hlt
  have heq := nearest_between (nearest_size hspaced) (hd.nearest_eq hbound) (le_of_not_ge hlt) hle
  rw [heq] at hround
  exact hlt hround

/-- A whole number of up to 53 bits is its own shortest decimal. -/
theorem value_eq_of_small (hwhole : one ∣ units) (hsmall : units < 2 ^ 53 * one) :
    d.value = size units := by
  obtain ⟨w, hw⟩ := hwhole
  rw [Nat.mul_comm] at hw
  have hsize : size units = w := by rw [hw, size_mul_one]
  have hreads := hd.nearest_eq hbound
  rcases Int.lt_or_le d.exponent 0 with hneg | hnonneg
  · -- a decimal with a fraction has more digits than the number written out, unless the point stands
    -- further to the left
    exfalso
    have hvalue : (⟨w, 0⟩ : Decimal).value = size units := by
      rw [hsize, Decimal.value, zpow_zero, mul_one]
    have hwreads : readsBack units ⟨w, 0⟩ = true := by
      rw [readsBack_iff_nearest hbound, hvalue, nearest_size hspaced]
    have hlow := Decimal.le_value (digits_pos_of_readsBack hpos hwreads)
    rw [hvalue] at hlow
    have hpower := (Decimal.ten_pow_le_value_iff (hd.digits_pos hpos)).1
      (hd.ten_pow_le_value hbound hspaced hlow)
    have hfewest := hd.fewest _ hwreads
    have hexponent : (⟨w, 0⟩ : Decimal).exponent = 0 := rfl
    rw [Decimal.point_eq, Decimal.point_eq] at hpower
    omega
  · have hvalue := (Decimal.value_eq_natCast_iff (hd.not_dvd hpos hbound)).2
      ⟨d.exponent.toNat, by omega, rfl⟩
    rw [hvalue] at hreads ⊢
    rcases Nat.le_total (d.digits * 10 ^ d.exponent.toNat) (2 ^ 53) with hle | hge
    · rw [nearest_natCast hle] at hreads
      rw [← hreads, size_mul_one]
    · have hge' : ((2 ^ 53 : Nat) : ℚ) ≤ (d.digits * 10 ^ d.exponent.toNat : Nat) := Nat.cast_le.2 hge
      have hround := nearest_le_nearest hge'
      rw [nearest_natCast (Nat.le_refl _), hreads] at hround
      omega

end

end Double

end Compendium
