import Compendium.Proofs.Decimal.Grid

/-!
# The fewest digits

The grids of one digit, two digits and so on are laid where the double has its first digit. A decimal
that reads back may have its first digit elsewhere, but then a power of ten stands between it and the
double, and that is on every grid (`exists_step`). So the first grid that has something is the one with
the fewest digits, and what is taken from it is the shortest decimal: the nearest of those with the fewest
digits, and the even one of two (`IsShortest`). There is no more than one such (`IsShortest.eq`), and the
search comes to it (`exists_isShortest`). Seventeen digits suffice, since a step is then too small beside
the double for its neighbours to be read as another.
-/

namespace Compendium

/-! ## Digits -/

namespace Decimal

theorem value_ten_pow_of_eq {j : Nat} {e p : Int} (h : j + e = p) :
    (⟨10 ^ j, e⟩ : Decimal).value = 10 ^ p := by
  rw [value, ← h, ten_pow_add, zpow_natCast]
  push_cast
  rfl

theorem value_shift (s j : Nat) (e : Int) :
    (⟨s * 10 ^ j, e - j⟩ : Decimal).value = (⟨s, e⟩ : Decimal).value := by
  have hplace : e = j + (e - j) := by omega
  rw [value, value, hplace, ten_pow_add, zpow_natCast, ← mul_assoc, ← hplace]
  push_cast
  rfl

/-- Two decimals of one number and with as many digits are the same. -/
theorem eq_of_value_eq {d e : Decimal} (hd : 0 < d.digits) (he : 0 < e.digits)
    (hcount : d.count = e.count) (hvalue : d.value = e.value) : d = e := by
  have hpoint : d.point = e.point := by
    have hde := ten_pow_lt_iff.1 ((le_value hd).trans_lt (hvalue ▸ e.value_lt))
    have hed := ten_pow_lt_iff.1 ((le_value he).trans_lt (hvalue ▸ d.value_lt))
    omega
  have hexponent : d.exponent = e.exponent := by
    rw [point_eq, point_eq, hcount] at hpoint
    omega
  have hdigits : d.digits = e.digits := by
    rw [value, value, hexponent] at hvalue
    exact Nat.cast_injective (mul_right_cancel₀ (ne_of_gt (ten_pow_pos _)) hvalue)
  cases d
  cases e
  simp_all

end Decimal

namespace Double

/-! ## Where the point stands -/

theorem zerosAfterPoint_bounds {units : Nat} (fuel : Nat) (hlow : units < one)
    (hhigh : one ≤ units * 10 ^ (fuel + 1)) :
    units * 10 ^ zerosAfterPoint fuel units < one ∧
      one ≤ units * 10 ^ (zerosAfterPoint fuel units + 1) := by
  induction fuel generalizing units with
  | zero => exact ⟨by simpa [zerosAfterPoint] using hlow, hhigh⟩
  | succ fuel ih =>
    rw [zerosAfterPoint]
    split
    · rename_i hnext
      have hshift : ∀ k, units * 10 * 10 ^ k = units * 10 ^ (k + 1) := fun k => by
        rw [Nat.mul_assoc, ← Nat.pow_succ']
      have hrest := ih hnext (by simpa only [hshift] using hhigh)
      simpa only [hshift] using hrest
    · rename_i hnext
      rw [Nat.zero_add, Nat.pow_zero, Nat.pow_one, Nat.mul_one]
      exact ⟨hlow, Nat.le_of_not_lt hnext⟩

/-- The point stands behind as many digits as the double has before it. -/
theorem pointPlace_bounds {units : Nat} (hpos : 0 < units) :
    10 ^ (pointPlace units - 1) ≤ size units ∧ size units < 10 ^ pointPlace units := by
  unfold pointPlace
  split
  · rename_i hlarge
    obtain ⟨w, hw⟩ : ∃ w : Decimal, w = ⟨units / one, 0⟩ := ⟨_, rfl⟩
    obtain ⟨hlow, hhigh⟩ := div_bounds units one_positive
    have hwhole : 0 < w.digits := hw ▸ Nat.div_pos hlarge one_positive
    have hvalue : w.value = (units / one : Nat) := by simp [hw, Decimal.value]
    have hpoint : w.point = ((Nat.toDigits 10 (units / one)).length : Int) := by
      simp [hw, Decimal.point]
    have hbelow := Decimal.le_value hwhole
    have habove : ((units / one : Nat) : ℚ) + 1 ≤ 10 ^ (Nat.toDigits 10 (units / one)).length := by
      have hlt := w.value_lt
      rw [hvalue, hpoint, zpow_natCast] at hlt
      exact_mod_cast hlt
    rw [hvalue, hpoint] at hbelow
    rw [zpow_natCast]
    exact ⟨hbelow.trans hlow, hhigh.trans_le habove⟩
  · rename_i hsmall
    obtain ⟨k, hk⟩ : ∃ k, k = zerosAfterPoint 330 units := ⟨_, rfl⟩
    have hfuel : one ≤ units * 10 ^ (330 + 1) := by
      have hpow : one ≤ 10 ^ (330 + 1) := by decide +kernel
      exact Nat.le_trans hpow (Nat.le_mul_of_pos_left _ hpos)
    obtain ⟨hlow, hhigh⟩ := zerosAfterPoint_bounds 330 (Nat.lt_of_not_le hsmall) hfuel
    rw [← hk] at hlow hhigh ⊢
    have hplace : -(k : Int) - 1 = -((k + 1 : Nat) : Int) := by omega
    have hten : ∀ j : Nat, (0 : ℚ) < 10 ^ j := fun j => by positivity
    rw [hplace, Decimal.ten_pow_neg, Decimal.ten_pow_neg, size, div_le_div_iff₀ (hten _) one_cast_pos,
      div_lt_div_iff₀ one_cast_pos (hten _), one_mul]
    exact ⟨by exact_mod_cast hhigh, by exact_mod_cast hlow⟩

/-- The steps in a double are as many as there are digits for. -/
theorem steps_bounds {units : Nat} (hpos : 0 < units) {k : Nat} {e : Int} (hk : 0 < k)
    (he : e = pointPlace units - k) :
    10 ^ (k - 1) ≤ stepsBelow units e ∧ stepsBelow units e < 10 ^ k := by
  obtain ⟨hlow, hhigh⟩ := pointPlace_bounds hpos
  obtain ⟨hbelow, habove⟩ := stepsBelow_bounds units e
  have hpower := Decimal.ten_pow_pos e
  have hplace : pointPlace units - 1 = (k - 1 : Nat) + e := by omega
  have hplace' : pointPlace units = k + e := by omega
  rw [hplace, Decimal.ten_pow_add, zpow_natCast, ← le_div_iff₀ hpower] at hlow
  rw [hplace', Decimal.ten_pow_add, zpow_natCast, ← div_lt_iff₀ hpower] at hhigh
  constructor
  · have hlt : (10 : ℚ) ^ (k - 1) < stepsBelow units e + 1 := hlow.trans_lt habove
    exact Nat.lt_succ_iff.1 (by exact_mod_cast hlt)
  · have hlt : (stepsBelow units e : ℚ) < 10 ^ k := hbelow.trans_lt hhigh
    exact_mod_cast hlt

/-! ## The search -/

theorem abs_value_sub (t : Nat) (e : Int) (units : Nat) :
    |(⟨t, e⟩ : Decimal).value - size units| = |(t : ℚ) - size units / 10 ^ e| * 10 ^ e := by
  have hpower := Decimal.ten_pow_pos e
  have hscaled : (⟨t, e⟩ : Decimal).value - size units = (t - size units / 10 ^ e) * 10 ^ e := by
    rw [Decimal.value, sub_mul, div_mul_cancel₀ _ (ne_of_gt hpower)]
  rw [hscaled, abs_mul, abs_of_pos hpower]

/-- Whether a decimal reads back depends on nothing but its value. -/
theorem readsBack_congr {units : Nat} (hbound : units < bound) {d e : Decimal}
    (h : d.value = e.value) : readsBack units d = readsBack units e := by
  rw [Bool.eq_iff_iff, readsBack_iff_nearest hbound, readsBack_iff_nearest hbound, h]

/-- What is taken from the first grid that has something is what the search comes to. -/
theorem search_eq {units : Nat} {point : Int} {k : Nat} {d : Decimal}
    (hfound : onGrid units point k = some d) {fuel count : Nat} (hcount : count ≤ k)
    (hfuel : k < count + fuel) (hfirst : ∀ j, count ≤ j → j < k → onGrid units point j = none) :
    search units point fuel count = d := by
  induction fuel generalizing count with
  | zero => omega
  | succ fuel ih =>
    rw [search]
    rcases Nat.lt_or_eq_of_le hcount with hlt | rfl
    · rw [hfirst count (Nat.le_refl count) hlt, Option.getD_none]
      exact ih hlt (by omega) fun j hj => hfirst j (by omega)
    · rw [hfound, Option.getD_some]

section
variable {units : Nat} (hpos : 0 < units) (hbound : units < bound) (hspaced : spacing units ∣ units)
include hpos hbound hspaced

/-- A double has a neighbour of seventeen digits that reads back. -/
theorem onGrid_seventeen : onGrid units (pointPlace units) 17 ≠ none := by
  rw [Ne, onGrid_eq_none_iff hbound hspaced]
  intro hnone
  obtain ⟨e, he⟩ : ∃ e : Int, e = pointPlace units - (17 : Nat) := ⟨_, rfl⟩
  rw [← he] at hnone
  have hpower := Decimal.ten_pow_pos e
  -- the step is small beside the double
  have hstep : 10 ^ 16 * (10 : ℚ) ^ e ≤ size units := by
    have hplace : pointPlace units - 1 = 16 + e := by omega
    have hlow := (pointPlace_bounds hpos).1
    rw [hplace, Decimal.ten_pow_add] at hlow
    exact_mod_cast hlow
  obtain ⟨hlow, hhigh⟩ := stepsBelow_bounds units e
  obtain ⟨t, ht⟩ : ∃ t : Nat, |(t : ℚ) - size units / 10 ^ e| ≤ 1 / 2 := by
    rcases le_total (size units / 10 ^ e - stepsBelow units e) (1 / 2) with hnear | hfar
    · refine ⟨stepsBelow units e, ?_⟩
      rw [abs_of_nonpos (by linarith)]
      linarith
    · refine ⟨stepsBelow units e + 1, ?_⟩
      push_cast
      rw [abs_of_nonneg (by linarith)]
      linarith
  have hreads : readsBack units ⟨t, e⟩ = true := by
    rw [readsBack_iff_nearest hbound]
    refine nearest_of_close (Decimal.value_nonneg _) hspaced hpos ?_
    rw [abs_value_sub]
    have hscaled := mul_le_mul_of_nonneg_right ht (le_of_lt hpower)
    linarith
  rw [hnone t] at hreads
  exact absurd hreads (by simp)

/-- The shortest decimal is taken from the first grid that has one. -/
theorem exists_first : ∃ k, 0 < k ∧ onGrid units (pointPlace units) k = some (shortest units) ∧
    ∀ j, 0 < j → j < k → onGrid units (pointPlace units) j = none := by
  have hsome : ∃ k, (onGrid units (pointPlace units) (k + 1)).isSome = true :=
    ⟨16, Option.isSome_iff_ne_none.2 (onGrid_seventeen hpos hbound hspaced)⟩
  obtain ⟨k, hk⟩ : ∃ k, k = Nat.find hsome := ⟨_, rfl⟩
  obtain ⟨d, hd⟩ := Option.isSome_iff_exists.1 (Nat.find_spec hsome)
  rw [← hk] at hd
  have hle : k ≤ 16 := hk ▸ Nat.find_min' hsome
    (Option.isSome_iff_ne_none.2 (onGrid_seventeen hpos hbound hspaced))
  have hfirst : ∀ j, 1 ≤ j → j < k + 1 → onGrid units (pointPlace units) j = none := by
    intro j hj hlt
    have hnone := Nat.find_min hsome (m := j - 1) (by omega)
    rw [Nat.sub_add_cancel hj] at hnone
    simpa using hnone
  have hshortest : shortest units = d := search_eq hd (by omega) (by omega) hfirst
  exact ⟨k + 1, by omega, hshortest ▸ hd, hfirst⟩

/-- Whatever reads back, some step of the grid with as many digits or more is as near and reads back
too. -/
theorem exists_step {e : Decimal} (he : readsBack units e = true) {k : Nat} (hk : e.count ≤ k) :
    ∃ t, readsBack units ⟨t, pointPlace units - k⟩ = true ∧
      |(⟨t, pointPlace units - k⟩ : Decimal).value - size units| ≤ |e.value - size units| ∧
      (|(⟨t, pointPlace units - k⟩ : Decimal).value - size units| = |e.value - size units| →
        (⟨t, pointPlace units - k⟩ : Decimal).value = e.value) := by
  obtain ⟨hlow, hhigh⟩ := pointPlace_bounds hpos
  obtain ⟨p, hp⟩ : ∃ p, p = pointPlace units := ⟨_, rfl⟩
  rw [← hp] at hlow hhigh ⊢
  have hdigits := digits_pos_of_readsBack hpos he
  have hcount := e.count_pos
  have hreads := (readsBack_iff_nearest hbound).1 he
  rcases Int.lt_trichotomy e.point p with hlt | heq | hgt
  · -- the power of ten below the double stands between
    have hvalue : (⟨10 ^ (k - 1), p - k⟩ : Decimal).value = 10 ^ (p - 1) :=
      Decimal.value_ten_pow_of_eq (by omega)
    have hbelow : e.value < 10 ^ (p - 1) :=
      e.value_lt.trans_le (Decimal.ten_pow_le_iff.2 (by omega))
    refine ⟨10 ^ (k - 1), (readsBack_iff_nearest hbound).2 ?_, ?_⟩
    · rw [hvalue]
      exact nearest_between hreads (nearest_size hspaced) (le_of_lt hbelow) hlow
    · rw [hvalue, abs_of_nonpos (by linarith), abs_of_nonpos (by linarith)]
      exact ⟨by linarith, fun htie => by linarith⟩
  · have hplace : p - k = e.exponent - (k - e.count : Nat) := by
      rw [← heq, Decimal.point_eq]
      omega
    have hvalue : (⟨e.digits * 10 ^ (k - e.count), p - k⟩ : Decimal).value = e.value := by
      rw [hplace, Decimal.value_shift]
    exact ⟨_, (readsBack_congr hbound hvalue).trans he, le_of_eq (by rw [hvalue]), fun _ => hvalue⟩
  · -- the power of ten above the double stands between
    have hvalue : (⟨10 ^ k, p - k⟩ : Decimal).value = 10 ^ p :=
      Decimal.value_ten_pow_of_eq (by omega)
    have habove : 10 ^ p ≤ e.value :=
      (Decimal.ten_pow_le_iff.2 (by omega)).trans (Decimal.le_value hdigits)
    refine ⟨10 ^ k, (readsBack_iff_nearest hbound).2 ?_, ?_⟩
    · rw [hvalue]
      exact nearest_between (nearest_size hspaced) hreads (le_of_lt hhigh) habove
    · rw [hvalue, abs_of_nonneg (by linarith), abs_of_nonneg (by linarith)]
      exact ⟨by linarith, fun htie => by linarith⟩

end

/-! ## The shortest decimals -/

/-- The decimal reads back, none that does has fewer digits, none with as many digits is nearer, and
if another one is as near it is even. -/
structure IsShortest (units : Nat) (d : Decimal) : Prop where
  reads : readsBack units d = true
  fewest : ∀ e, readsBack units e = true → d.count ≤ e.count
  nearest : ∀ e, readsBack units e = true → e.count = d.count →
    |d.value - size units| ≤ |e.value - size units|
  even : ∀ e, readsBack units e = true → e.count = d.count →
    |e.value - size units| = |d.value - size units| → e ≠ d → 2 ∣ d.digits

section
variable {units : Nat} {d e : Decimal} (hd : IsShortest units d)
include hd

theorem IsShortest.digits_pos (hpos : 0 < units) : 0 < d.digits := digits_pos_of_readsBack hpos hd.reads

theorem IsShortest.nearest_eq (hbound : units < bound) : Double.nearest d.value = units :=
  (readsBack_iff_nearest hbound).1 hd.reads

theorem IsShortest.count_eq (he : IsShortest units e) : d.count = e.count :=
  Nat.le_antisymm (hd.fewest e he.reads) (he.fewest d hd.reads)

end

/-- Between two even decimals of as many digits there is another one. -/
theorem exists_between {d e : Decimal} (hd : 2 ∣ d.digits) (he : 2 ∣ e.digits) (hpos : 0 < d.digits)
    (hcount : d.count = e.count) (hlt : d.value < e.value) :
    ∃ c : Decimal, c.count = d.count ∧ d.value < c.value ∧ c.value < e.value := by
  obtain ⟨m, hm⟩ : ∃ m : Nat, e.exponent = d.exponent + m := by
    have hpoint : d.point ≤ e.point := by
      have hpower := ((Decimal.le_value hpos).trans_lt hlt).trans e.value_lt
      have hplace := Decimal.ten_pow_lt_iff.1 hpower
      omega
    rw [Decimal.point_eq, Decimal.point_eq, hcount] at hpoint
    exact ⟨(e.exponent - d.exponent).toNat, by omega⟩
  have hvalue : e.value = (e.digits * 10 ^ m : Nat) * 10 ^ d.exponent := by
    rw [Decimal.value, hm, Decimal.ten_pow_add, zpow_natCast, mul_comm (10 ^ d.exponent), ← mul_assoc]
    push_cast
    rfl
  have hpower := Decimal.ten_pow_pos d.exponent
  have hdigits : d.digits < e.digits * 10 ^ m := by
    rw [hvalue, Decimal.value, mul_lt_mul_iff_left₀ hpower] at hlt
    exact_mod_cast hlt
  have hnext : d.digits + 1 < e.digits * 10 ^ m := by
    have heven : 2 ∣ e.digits * 10 ^ m := Dvd.dvd.mul_right he _
    omega
  refine ⟨⟨d.digits + 1, d.exponent⟩, Decimal.count_eq d.count_pos ?_ ?_, ?_, ?_⟩
  · exact Nat.le_succ_of_le (Decimal.le_digits hpos)
  · show d.digits + 1 < 10 ^ d.count
    have hlast := d.digits_lt
    have heven : 2 ∣ 10 ^ d.count := dvd_pow (by decide) (Nat.ne_of_gt d.count_pos)
    omega
  · rw [Decimal.value, Decimal.value, mul_lt_mul_iff_left₀ hpower]
    exact_mod_cast Nat.lt_succ_self d.digits
  · rw [hvalue, Decimal.value, mul_lt_mul_iff_left₀ hpower]
    exact_mod_cast hnext

section
variable {units : Nat} (hpos : 0 < units) (hbound : units < bound)
include hpos hbound

theorem IsShortest.not_lt {d e : Decimal} (hd : IsShortest units d) (he : IsShortest units e) :
    ¬ d.value < e.value := by
  intro hlt
  have hcount := hd.count_eq he
  have htie : |d.value - size units| = |e.value - size units| :=
    le_antisymm (hd.nearest e he.reads hcount.symm) (he.nearest d hd.reads hcount)
  have hne : d ≠ e := fun heq => absurd (heq ▸ hlt) (lt_irrefl _)
  obtain ⟨c, hc, hdc, hce⟩ := exists_between (hd.even e he.reads hcount.symm htie.symm hne.symm)
    (he.even d hd.reads hcount htie hne) (hd.digits_pos hpos) hcount hlt
  have hreads : readsBack units c = true := by
    rw [readsBack_iff_nearest hbound]
    exact nearest_between (hd.nearest_eq hbound) (he.nearest_eq hbound) (le_of_lt hdc) (le_of_lt hce)
  -- the double is in the middle of the two, so it is nearer to what is between them
  have hmiddle : 2 * size units = d.value + e.value := by
    rcases abs_eq_abs.1 htie with heq | heq
    · linarith
    · linarith
  have hnear := hd.nearest c hreads hc
  rw [abs_of_neg (a := d.value - size units) (by linarith)] at hnear
  have hcloser : |c.value - size units| < -(d.value - size units) :=
    abs_lt.2 ⟨by linarith, by linarith⟩
  linarith

/-- A shortest decimal has no zero at its end. -/
theorem IsShortest.not_dvd {d : Decimal} (hd : IsShortest units d) : ¬ 10 ∣ d.digits := by
  rintro ⟨m, hm⟩
  have hm' : 0 < m := by
    have hdigits := hd.digits_pos hpos
    omega
  have hvalue : (⟨m, d.exponent + 1⟩ : Decimal).value = d.value := by
    rw [← Decimal.value_shift m 1 (d.exponent + 1), Decimal.value, Decimal.value, hm]
    simp [mul_comm]
  have hle := hd.fewest _ ((readsBack_congr hbound hvalue).trans hd.reads)
  have hcount : d.count = (⟨m, d.exponent + 1⟩ : Decimal).count + 1 := by
    rw [Decimal.count, hm, Nat.mul_comm, length_toDigits_mul_ten hm']
    rfl
  omega

/-- A double has no two shortest decimals. -/
theorem IsShortest.eq {d e : Decimal} (hd : IsShortest units d) (he : IsShortest units e) : d = e := by
  refine Decimal.eq_of_value_eq (hd.digits_pos hpos) (he.digits_pos hpos) (hd.count_eq he) ?_
  exact le_antisymm (le_of_not_gt (he.not_lt hpos hbound hd)) (le_of_not_gt (hd.not_lt hpos hbound he))

end

theorem nine_steps_le {units step : Nat} (hpos : 0 < units) (hunits : 2 * units = 19 * step)
    (hlarge : 2 ^ 53 ≤ step) : 9 * step ≤ units - spacing units := by
  have hlog : 52 ≤ units.log2 := (Nat.le_log2 (Nat.ne_of_gt hpos)).2 (by omega)
  have hspacing := two_pow_log2 hlog
  have hlow := Nat.log2_self_le (Nat.ne_of_gt hpos)
  omega

/-- Half way between nine steps and ten there is no double that nine steps are rounded to. -/
theorem ne_of_nine {units : Nat} {e : Int} (hpos : 0 < units) (hbound : units < bound)
    (hspaced : spacing units ∣ units) (hreads : readsBack units ⟨9, e⟩ = true) :
    2 * size units ≠ 19 * 10 ^ e := by
  intro htie
  rcases Int.lt_or_le e 0 with he | he
  · -- the double would have a fifth in it
    obtain ⟨k, hk⟩ : ∃ k : Nat, -e = (k + 1 : Nat) := ⟨(-e - 1).toNat, by omega⟩
    have hpower : (10 : ℚ) ^ e = 1 / (10 ^ (k + 1) : Nat) := by
      rw [← neg_neg e, hk, Decimal.ten_pow_neg]
      push_cast
      rfl
    have hten : (0 : ℚ) < (10 ^ (k + 1) : Nat) := Nat.cast_pos.2 (Nat.pow_pos (by decide))
    rw [hpower, size, ← mul_div_assoc, ← mul_div_assoc, mul_one,
      div_eq_div_iff (ne_of_gt one_cast_pos) (ne_of_gt hten)] at htie
    have hcross : 2 * units * 10 ^ (k + 1) = 19 * one := by exact_mod_cast htie
    have hfive : ¬ 5 ∣ 19 * one := by decide +kernel
    refine hfive (hcross ▸ Dvd.dvd.mul_left ?_ _)
    rw [Nat.pow_succ]
    exact Dvd.dvd.mul_left (by decide) _
  · -- the double before it is above nine steps
    obtain ⟨k, rfl⟩ := Int.eq_ofNat_of_zero_le he
    have hbelow := lt_of_nearest hspaced hpos ((readsBack_iff_nearest hbound).1 hreads)
    obtain ⟨step, hstep⟩ : ∃ step, step = 10 ^ k * one := ⟨_, rfl⟩
    have hnine : units - spacing units < 9 * step := by
      rw [size, Decimal.value, zpow_natCast, div_lt_iff₀ one_cast_pos, mul_assoc] at hbelow
      rw [hstep]
      exact_mod_cast hbelow
    have hunits : 2 * units = 19 * step := by
      rw [size, zpow_natCast, ← mul_div_assoc, div_eq_iff (ne_of_gt one_cast_pos), mul_assoc] at htie
      rw [hstep]
      exact_mod_cast htie
    have hlarge : 2 ^ 53 ≤ step := by
      have hpow : 2 ^ 53 ≤ one := by decide +kernel
      rw [hstep]
      exact Nat.le_trans hpow (Nat.le_mul_of_pos_left _ (Nat.pow_pos (by decide)))
    exact absurd hnine (Nat.not_lt.2 (nine_steps_le hpos hunits hlarge))

/-! ## What the search comes to -/

section
variable {units : Nat} (hpos : 0 < units) (hbound : units < bound) (hspaced : spacing units ∣ units)
include hpos hbound hspaced

/-- A decimal that reads back has at least as many digits as the first grid that has something. -/
theorem le_count {k : Nat} (hfirst : ∀ j, 0 < j → j < k → onGrid units (pointPlace units) j = none)
    {d : Decimal} (hd : readsBack units d = true) : k ≤ d.count := by
  by_contra hlt
  obtain ⟨t, ht, -, -⟩ := exists_step hpos hbound hspaced hd (Nat.le_refl _)
  have hnone := (onGrid_eq_none_iff hbound hspaced).1 (hfirst d.count d.count_pos (by omega)) t
  rw [hnone] at ht
  exact absurd ht (by simp)

/-- The best of the first grid that has something, in as many digits, is a shortest decimal. -/
theorem isShortest_of_bestOf {k s : Nat} {e : Int} (he : e = pointPlace units - k) {d : Decimal}
    (hcount : d.count = k) (hvalue : d.value = (⟨s, e⟩ : Decimal).value)
    (hbest : BestOf (fun t => readsBack units ⟨t, e⟩ = true) (size units / 10 ^ e) s)
    (hfirst : ∀ j, 0 < j → j < k → onGrid units (pointPlace units) j = none)
    (heven : ∀ t, readsBack units ⟨t, e⟩ = true →
      |(t : ℚ) - size units / 10 ^ e| = |(s : ℚ) - size units / 10 ^ e| → t ≠ s → 2 ∣ d.digits) :
    IsShortest units d := by
  have hpower := Decimal.ten_pow_pos e
  have hreads : readsBack units d = true := (readsBack_congr hbound hvalue).trans hbest.mem
  have hstep : ∀ {c : Decimal}, readsBack units c = true → c.count = d.count →
      ∃ t, readsBack units ⟨t, e⟩ = true ∧
        |d.value - size units| ≤ |(⟨t, e⟩ : Decimal).value - size units| ∧
        |(⟨t, e⟩ : Decimal).value - size units| ≤ |c.value - size units| ∧
        (|(⟨t, e⟩ : Decimal).value - size units| = |c.value - size units| →
          (⟨t, e⟩ : Decimal).value = c.value) := by
    intro c hc hsame
    obtain ⟨t, ht, hle, heq⟩ :=
      exists_step hpos hbound hspaced hc (Nat.le_of_eq (hsame.trans hcount))
    rw [← he] at ht hle heq
    refine ⟨t, ht, ?_, hle, heq⟩
    rw [hvalue, abs_value_sub, abs_value_sub]
    exact mul_le_mul_of_nonneg_right (hbest.nearest t ht) (le_of_lt hpower)
  refine ⟨hreads, fun c hc => ?_, fun c hc hsame => ?_, fun c hc hsame htie hne => ?_⟩
  · exact hcount ▸ le_count hpos hbound hspaced hfirst hc
  · obtain ⟨t, -, hbelow, habove, -⟩ := hstep hc hsame
    exact hbelow.trans habove
  · obtain ⟨t, ht, hbelow, habove, heq⟩ := hstep hc hsame
    rw [htie] at habove heq
    have hdistance := le_antisymm habove hbelow
    have hvalues := heq hdistance
    refine heven t ht ?_ ?_
    · rw [hvalue, abs_value_sub, abs_value_sub] at hdistance
      exact mul_right_cancel₀ (ne_of_gt hpower) hdistance
    · rintro rfl
      exact hne (Decimal.eq_of_value_eq (digits_pos_of_readsBack hpos hc)
        (digits_pos_of_readsBack hpos hreads) hsame (hvalues.symm.trans hvalue.symm))

/-- Ten steps, if they are the best, are alone in being so. -/
theorem eq_ten_of_tie {e : Int} (hlow : 9 ≤ size units / 10 ^ e) (hhigh : size units / 10 ^ e < 10)
    (hbest : BestOf (fun t => readsBack units ⟨t, e⟩ = true) (size units / 10 ^ e) 10) {t : Nat}
    (ht : readsBack units ⟨t, e⟩ = true)
    (htie : |(t : ℚ) - size units / 10 ^ e| = |((10 : Nat) : ℚ) - size units / 10 ^ e|) : t = 10 := by
  have hne : readsBack units ⟨9, e⟩ = true → 2 * (size units / 10 ^ e) ≠ 19 := by
    rw [← mul_div_assoc, Ne, div_eq_iff (ne_of_gt (Decimal.ten_pow_pos e))]
    exact ne_of_nine hpos hbound hspaced
  have hnine : t ≤ 9 → readsBack units ⟨9, e⟩ = true :=
    fun hle => readsBack_below hbound hspaced (by exact_mod_cast hlow) hle ht
  have hnearest := hbest.nearest 9
  obtain ⟨y, hy⟩ : ∃ y, y = size units / 10 ^ e := ⟨_, rfl⟩
  rw [← hy] at hlow hhigh htie hne hnearest
  push_cast at htie hnearest
  rw [abs_of_pos (a := 10 - y) (by linarith)] at htie hnearest
  rcases Nat.lt_or_ge t 10 with hlt | hge
  · -- then nine steps would be the middle's other end
    have ht' : (t : ℚ) ≤ 9 := by exact_mod_cast Nat.le_of_lt_succ hlt
    have hreads := hnine (Nat.le_of_lt_succ hlt)
    have hle := hnearest hreads
    rw [abs_of_nonpos (by linarith)] at htie hle
    exact absurd (by linarith) (hne hreads)
  · have ht' : (10 : ℚ) ≤ t := by exact_mod_cast hge
    rw [abs_of_nonneg (by linarith)] at htie
    have heq : (t : ℚ) = 10 := by linarith
    exact_mod_cast heq

/-- The search comes to the shortest decimal, which it may write with a zero at its end. -/
theorem exists_isShortest : ∃ d, IsShortest units d ∧
    (shortest units).significant = Nat.toDigits 10 d.digits ∧ (shortest units).point = d.point := by
  obtain ⟨k, hk, hfound, hfirst⟩ := exists_first hpos hbound hspaced
  obtain ⟨s, hshortest, hstep, hbest⟩ := bestOf_onGrid hbound hspaced hfound
  obtain ⟨e, he⟩ : ∃ e, e = pointPlace units - k := ⟨_, rfl⟩
  rw [← he] at hshortest hstep hbest
  obtain ⟨hlow, hhigh⟩ := steps_bounds hpos hk he
  rcases Nat.lt_or_ge s (10 ^ k) with hlt | hge
  · have hleast : 10 ^ (k - 1) ≤ s := by omega
    have hcount : (⟨s, e⟩ : Decimal).count = k := Decimal.count_eq hk hleast hlt
    have hs := isShortest_of_bestOf hpos hbound hspaced he hcount rfl hbest hfirst hbest.even
    refine ⟨⟨s, e⟩, hs, ?_, by rw [hshortest]⟩
    rw [hshortest]
    exact Decimal.significant_of_not_dvd (hs.not_dvd hpos hbound)
  · -- the power of ten above the double: it has one digit, so there was no second one to be found
    have hs : s = 10 ^ k := by omega
    have hvalue : (⟨1, pointPlace units⟩ : Decimal).value = (⟨s, e⟩ : Decimal).value := by
      rw [hs, value_one]
      exact (Decimal.value_ten_pow_of_eq (by omega)).symm
    have hcount := Decimal.count_one (pointPlace units)
    have hk1 : k = 1 := by
      have hle := le_count hpos hbound hspaced hfirst ((readsBack_congr hbound hvalue).trans hbest.mem)
      omega
    rw [hk1, Nat.pow_one] at hs hhigh
    have hten : Nat.toDigits 10 10 = ['1', '0'] := by decide
    have hnine : stepsBelow units e = 9 := by omega
    obtain ⟨hbelow, habove⟩ := stepsBelow_bounds units e
    rw [hnine] at hbelow habove
    rw [hs] at hbest hvalue hshortest
    refine ⟨_, isShortest_of_bestOf hpos hbound hspaced he (hcount.trans hk1.symm) hvalue hbest hfirst
      fun t ht htie hne => absurd ?_ hne, ?_, ?_⟩
    · exact eq_ten_of_tie hpos hbound hspaced (by exact_mod_cast hbelow)
        (habove.trans_eq (by norm_num)) hbest ht htie
    · have hone : Nat.toDigits 10 1 = ['1'] := by decide
      simp [hshortest, Decimal.significant, hten, hone]
    · have hcount' : (⟨10, e⟩ : Decimal).count = 2 := by simp [Decimal.count, hten]
      rw [hshortest, Decimal.point_eq, Decimal.point_eq, hcount, hcount']
      push_cast
      omega

end

end Double

end Compendium
