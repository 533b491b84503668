import Compendium.Json.Display
import Compendium.Proofs.Decimal.Browser

/-!
# Labels of numbers

A number has the label that a browser shows for it wherever both write their digits alike. A whole
number has to be below `10 ^ 21`, where a browser begins to use exponents, and its own shortest decimal,
as its label is the whole number written out. Any other must not be where the label has an exponent and a
browser none, nor where the label has a zero in front of the exponent. Main theorem
`label_shownInBrowser_iff`.
-/

namespace Compendium

def signed (negative : Bool) (cs : List Char) : String := String.ofList (if negative then '-' :: cs else cs)

theorem signed_inj {negative : Bool} {cs cs' : List Char} :
    signed negative cs = signed negative cs' ↔ cs = cs' := by
  cases negative <;> simp [signed, String.ofList_inj]

namespace Double

/-- What a browser shows for a finite number: zero without its sign, any other number as its shortest
decimal. -/
inductive ShownInBrowser : Double → String → Prop where
  | zero (negative : Bool) : ShownInBrowser (.finite negative 0) "0"
  | decimal (negative : Bool) {units : Nat} {d : Decimal} (pos : 0 < units) (shortest : IsShortest units d) :
    ShownInBrowser (.finite negative units) (signed negative d.browserChars)

def magnitude : Double → ℚ
  | .finite _ units => size units
  | _ => 0

/-- The shortest decimal of the number is the number itself. -/
def ShortestIsExact : Double → Prop
  | .finite _ units => ∃ d, IsShortest units d ∧ d.value = size units
  | _ => False

theorem isWhole_iff {negative : Bool} {units : Nat} :
    (Double.finite negative units).isWhole = true ↔ one ∣ units := by
  rw [isWhole, decide_eq_true_iff, Nat.dvd_iff_mod_eq_zero]

/-! ## Zero -/

theorem size_zero : size 0 = 0 := by rw [size, Nat.cast_zero, zero_div]

theorem isShortest_zero : IsShortest 0 ⟨0, 0⟩ where
  reads := by simp [readsBack, ofDecimal]
  fewest e _ := e.count_pos
  nearest e _ _ := by
    have hzero : |(⟨0, 0⟩ : Decimal).value - size 0| = 0 := by
      rw [size_zero, Decimal.value, Nat.cast_zero, zero_mul, sub_zero, abs_zero]
    rw [hzero]
    exact abs_nonneg _
  even _ _ _ _ _ := Nat.dvd_zero 2

theorem label_zero (negative : Bool) : (Json.float (.finite negative 0)).label? = some "0" := by
  cases negative <;> decide +kernel

theorem shownInBrowser_zero_iff {negative : Bool} {t : String} :
    (Double.finite negative 0).ShownInBrowser t ↔ t = "0" := by
  constructor
  · intro h
    cases h with
    | zero => rfl
    | decimal _ pos => exact absurd pos (Nat.lt_irrefl 0)
  · rintro rfl
    exact .zero negative

/-! ## Other numbers -/

section
variable {units : Nat} (hpos : 0 < units) (hbound : units < bound) {d : Decimal} (hd : IsShortest units d)
include hpos hbound hd

theorem shownInBrowser_iff {negative : Bool} {t : String} :
    (Double.finite negative units).ShownInBrowser t ↔ t = signed negative d.browserChars := by
  constructor
  · intro h
    cases h with
    | zero => exact absurd hpos (Nat.lt_irrefl 0)
    | decimal _ _ shortest => rw [shortest.eq hpos hbound hd]
  · rintro rfl
    exact .decimal negative hpos hd

theorem shortestIsExact_iff {negative : Bool} :
    (Double.finite negative units).ShortestIsExact ↔ d.value = size units := by
  constructor
  · rintro ⟨e, he, hvalue⟩
    rwa [hd.eq hpos hbound he]
  · intro hvalue
    exact ⟨d, hd, hvalue⟩

end

/-- The label of a whole number is the number written out. -/
theorem label_of_whole {negative : Bool} {w : Nat} (hpos : 0 < w * one) :
    (Json.float (.finite negative (w * one))).label? = some (signed negative (Nat.toDigits 10 w)) := by
  have hwhole : (Double.finite negative (w * one)).isWhole = true := isWhole_iff.2 (Nat.dvd_mul_left one w)
  have hw : 0 < w := Nat.pos_of_mul_pos_right hpos
  have hdiv : w * one / one = w := Nat.mul_div_cancel w one_positive
  rw [Json.label?, if_pos hwhole, whole, hdiv]
  cases negative with
  | false => simp [signed, Json.intChars, Int.not_lt.2 (Int.natCast_nonneg w)]
  | true => simp [signed, Json.intChars, hw]

/-- The label of a number with a fraction is its text. -/
theorem label_of_fraction {negative : Bool} {units : Nat} (hpos : 0 < units) (hfraction : ¬ one ∣ units) :
    (Json.float (.finite negative units)).label? =
      some (signed negative ((shortest units).layOut .plain)) := by
  rw [Json.label?, if_neg (isWhole_iff.not.2 hfraction), text, textWith, magnitudeText,
    if_neg (Nat.ne_of_gt hpos)]
  rfl

/-! ## Where labels and browsers agree -/

theorem exists_label_iff {x : Double} {s : String} (h : (Json.float x).label? = some s) :
    (∃ t, (Json.float x).label? = some t ∧ x.ShownInBrowser t) ↔ x.ShownInBrowser s := by
  simp [h]

theorem ten_pow_neg_le_size {units k : Nat} (h : one ≤ units * Nat.pow 10 k) :
    (10 : ℚ) ^ (-k : Int) ≤ size units := by
  have hten : (0 : ℚ) < 10 ^ k := by positivity
  rw [Decimal.ten_pow_neg, size, div_le_div_iff₀ hten one_cast_pos, one_mul]
  exact_mod_cast h

/-- The power of ten is not above the double that it is read as. -/
theorem ten_pow_le_nearest {k : Nat} (hk : 0 < k)
    (h : one ≤ nearestUnits (1 * one) (Nat.pow 10 k) * Nat.pow 10 k) :
    (10 : ℚ) ^ (-k : Int) ≤ size (nearest (10 ^ (-k : Int))) := by
  have hneg : (⟨1, -k⟩ : Decimal).exponent < 0 := by
    show (-k : Int) < 0
    omega
  rw [← value_one, nearest_value_of_neg hneg, value_one]
  simp only [Int.neg_neg, Int.toNat_natCast]
  exact ten_pow_neg_le_size h

section
variable {units : Nat} (hpos : 0 < units) (hbound : units < bound) (hspaced : spacing units ∣ units)
include hpos hbound hspaced

theorem label_whole_iff {negative : Bool} (hwhole : one ∣ units) :
    (∃ t, (Json.float (.finite negative units)).label? = some t ∧
      (Double.finite negative units).ShownInBrowser t) ↔
      size units < 10 ^ 21 ∧ (Double.finite negative units).ShortestIsExact := by
  obtain ⟨d, hd, -⟩ := exists_isShortest hpos hbound hspaced
  obtain ⟨w, hw⟩ := hwhole
  rw [Nat.mul_comm] at hw
  have hsize : size units = w := by rw [hw, size_mul_one]
  have hdigits := hd.digits_pos hpos
  have hlimit : d.value < 10 ^ 21 ↔ d.point ≤ 21 := by
    rw [← not_le, ← Int.not_lt, ← Decimal.ten_pow_le_value_iff hdigits]
    exact Iff.rfl
  have hlabel : (Json.float (.finite negative units)).label? =
      some (signed negative (Nat.toDigits 10 w)) := by
    rw [hw] at hpos ⊢
    exact label_of_whole hpos
  rw [exists_label_iff hlabel, shownInBrowser_iff hpos hbound hd, shortestIsExact_iff hpos hbound hd,
    signed_inj, Decimal.toDigits_eq_browserChars_iff hdigits (hd.not_dvd hpos hbound), hsize]
  constructor
  · rintro ⟨hpoint, hvalue⟩
    exact ⟨hvalue ▸ hlimit.2 hpoint, hvalue⟩
  · rintro ⟨hlt, hvalue⟩
    exact ⟨hlimit.1 (hvalue.symm ▸ hlt), hvalue⟩

theorem label_fraction_iff {negative : Bool} (hfraction : ¬ one ∣ units) :
    (∃ t, (Json.float (.finite negative units)).label? = some t ∧
      (Double.finite negative units).ShownInBrowser t) ↔
      10 ^ (-4 : Int) ≤ size units ∨ size units < 10 ^ (-9 : Int) := by
  obtain ⟨d, hd, hsignificant, hpoint⟩ := exists_isShortest hpos hbound hspaced
  obtain ⟨hbehind, hbefore⟩ := fraction_bounds hpos hbound hspaced hd hfraction
  have hlow := ten_pow_le_size_iff hpos hbound hspaced hd (j := -4)
    (ten_pow_le_nearest (k := 4) (by decide) (by decide +kernel))
  have hhigh : size units < 10 ^ (-9 : Int) ↔ d.point ≤ -9 := by
    rw [← not_le, ← Int.not_lt, not_congr]
    exact ten_pow_le_size_iff hpos hbound hspaced hd (j := -9)
      (ten_pow_le_nearest (k := 9) (by decide) (by decide +kernel))
  rw [exists_label_iff (label_of_fraction hpos hfraction), shownInBrowser_iff hpos hbound hd, signed_inj,
    Decimal.layOut_eq_browserChars_iff hsignificant hpoint (hd.digits_pos hpos)
      hbehind hbefore, hlow, hhigh]
  omega

end

/-- **A number has the label that a browser shows for it** exactly if it is a whole number below
`10 ^ 21` that is its own shortest decimal, or has a fraction and is either not below `10 ^ -4` or below
`10 ^ -9`. A browser shows one text for each finite number, and each whole number below `2 ^ 53` is its
own shortest decimal. -/
theorem label_shownInBrowser_iff {x : Double} (hx : x.Representable) (hfinite : x.isFinite = true) :
    (∃! t, x.ShownInBrowser t) ∧
    ((∃ t, (Json.float x).label? = some t ∧ x.ShownInBrowser t) ↔
      if x.isWhole then x.magnitude < 10 ^ 21 ∧ x.ShortestIsExact
      else 10 ^ (-4 : Int) ≤ x.magnitude ∨ x.magnitude < 10 ^ (-9 : Int)) ∧
    (x.isWhole = true → x.magnitude < 2 ^ 53 → x.ShortestIsExact) := by
  cases hx with
  | nan => exact absurd hfinite (by decide)
  | infinite negative => exact absurd hfinite (by simp [isFinite])
  | @finite negative units hbound hspaced =>
    rcases Nat.eq_zero_or_pos units with rfl | hpos
    · have hwhole : (Double.finite negative 0).isWhole = true := isWhole_iff.2 (Nat.dvd_zero one)
      have hexact : (Double.finite negative 0).ShortestIsExact :=
        ⟨_, isShortest_zero, by rw [size_zero, Decimal.value, Nat.cast_zero, zero_mul]⟩
      refine ⟨⟨_, .zero negative, fun t => shownInBrowser_zero_iff.1⟩, ?_, fun _ _ => hexact⟩
      rw [exists_label_iff (label_zero negative), if_pos hwhole, shownInBrowser_zero_iff, magnitude, size_zero]
      exact iff_of_true rfl ⟨by norm_num, hexact⟩
    · obtain ⟨d, hd, -⟩ := exists_isShortest hpos hbound hspaced
      refine ⟨⟨_, .decimal negative hpos hd, fun t => (shownInBrowser_iff hpos hbound hd).1⟩, ?_, ?_⟩
      · by_cases hwhole : one ∣ units
        · rw [if_pos (isWhole_iff.2 hwhole)]
          exact label_whole_iff hpos hbound hspaced hwhole
        · rw [if_neg (isWhole_iff.not.2 hwhole)]
          exact label_fraction_iff hpos hbound hspaced hwhole
      · intro hwhole hsmall
        refine ⟨d, hd, value_eq_of_small hpos hbound hspaced hd (isWhole_iff.1 hwhole) ?_⟩
        rw [magnitude, size, div_lt_iff₀ one_cast_pos] at hsmall
        exact_mod_cast hsmall

theorem label_shownInBrowser_tenth :
    (ofDecimal false 1 (-1)).Representable ∧ (ofDecimal false 1 (-1)).isFinite = true ∧
      (Json.float (ofDecimal false 1 (-1))).label? = some "0.1" ∧
      (ofDecimal false 1 (-1)).ShownInBrowser "0.1" := by
  have hx := representable_ofDecimal false 1 (-1)
  have hfinite : (ofDecimal false 1 (-1)).isFinite = true := by decide +kernel
  have hlabel : (Json.float (ofDecimal false 1 (-1))).label? = some "0.1" := by decide +kernel
  have hwhole : (ofDecimal false 1 (-1)).isWhole = false := by decide +kernel
  have hunits : ofDecimal false 1 (-1) = .finite false (nearestUnits (1 * one) (Nat.pow 10 1)) := by
    decide +kernel
  have hlow : 10 ^ (-4 : Int) ≤ (ofDecimal false 1 (-1)).magnitude := by
    rw [hunits]
    exact ten_pow_neg_le_size (k := 4) (by decide +kernel)
  have hshown := (label_shownInBrowser_iff hx hfinite).2.1
  rw [exists_label_iff hlabel, hwhole, if_neg (by simp)] at hshown
  exact ⟨hx, hfinite, hlabel, hshown.2 (Or.inl hlow)⟩

/-- A label with an exponent where a browser writes none. -/
theorem small_label_not_shownInBrowser :
    (Json.float (ofDecimal false 1 (-5))).label? = some "1e-05" ∧
      (ofDecimal false 1 (-5)).ShownInBrowser "0.00001" ∧
      ¬ (ofDecimal false 1 (-5)).ShownInBrowser "1e-05" := by
  have hlabel : (Json.float (ofDecimal false 1 (-5))).label? = some "1e-05" := by decide +kernel
  obtain ⟨units, hunits⟩ : ∃ units, units = nearestUnits (1 * one) (Nat.pow 10 5) := ⟨_, rfl⟩
  have hx : ofDecimal false 1 (-5) = .finite false units := by
    rw [hunits]
    decide +kernel
  have hrange : 0 < units ∧ units < bound := by
    rw [hunits]
    decide +kernel
  have hsearch : (shortest units).significant = ['1'] ∧ (shortest units).point = -4 := by
    rw [hunits]
    decide +kernel
  have hspaced : spacing units ∣ units := hunits ▸ spacing_dvd_nearestUnits _ _
  obtain ⟨d, hd, hsignificant, hpoint⟩ := exists_isShortest hrange.1 hrange.2 hspaced
  rw [hsearch.1] at hsignificant
  rw [hsearch.2] at hpoint
  have hdigits : d.digits = 1 := by
    have hone : Nat.ofDigitChars 10 ['1'] 0 = 1 := by decide
    rw [← hone, hsignificant, Nat.ofDigitChars_ten_toDigits]
  have hcount : d.count = 1 := by rw [Decimal.count, ← hsignificant, List.length_singleton]
  have hexponent : d.exponent = -5 := by
    rw [Decimal.point_eq, hcount] at hpoint
    omega
  have htext : signed false d.browserChars = "0.00001" := by
    have hd' : d = ⟨1, -5⟩ := by
      cases d
      simp_all
    rw [hd']
    decide
  have hshown : ∀ t, (ofDecimal false 1 (-5)).ShownInBrowser t ↔ t = "0.00001" := by
    intro t
    rw [hx, shownInBrowser_iff hrange.1 hrange.2 hd, htext]
  refine ⟨hlabel, (hshown _).2 rfl, ?_⟩
  rw [hshown]
  decide

end Double

end Compendium
