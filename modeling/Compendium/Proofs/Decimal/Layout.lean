import Compendium.Decimal.Shortest
import Compendium.Proofs.Decimal.Rounding
import Compendium.Proofs.Json.Numerals
import Mathlib.Data.List.TakeWhile

/-!
# The layout of a decimal

A number under a layout is a numeral: whole digits, digits behind a point, and an exponent with its
sign. Where the point stands and what zeros are written around the digits depends on the size of the
number, and the digits that stand for it have lost the zeros at their end; but the numeral is the same
decimal with its point moved, so it reads as the same double. Main theorem `exists_numeral`.
-/

namespace Compendium

open Json (digitsValue)

/-! ## Digits and zeros -/

theorem digitsValue_append_zeros (cs : List Char) (zeros : Nat) :
    digitsValue (cs ++ List.replicate zeros '0') = digitsValue cs * 10 ^ zeros := by
  induction zeros with
  | zero => simp
  | succ zeros ih =>
    have hlast : digitsValue (cs ++ List.replicate (zeros + 1) '0') =
        10 * digitsValue (cs ++ List.replicate zeros '0') := by
      rw [List.replicate_succ', ← List.append_assoc, digitsValue, Nat.ofDigitChars_append,
        Nat.ofDigitChars_cons, Nat.ofDigitChars_nil]
      rfl
    rw [hlast, ih, Nat.pow_succ, Nat.mul_comm, Nat.mul_assoc]

theorem digitsValue_zeros_append (zeros : Nat) (cs : List Char) :
    digitsValue (List.replicate zeros '0' ++ cs) = digitsValue cs := by
  have hzeros : Nat.ofDigitChars 10 (List.replicate zeros '0') 0 = 0 := by simp
  rw [digitsValue, Nat.ofDigitChars_append, hzeros, digitsValue]

theorem digitsValue_padZeros (width n : Nat) :
    digitsValue (padZeros width (Nat.toDigits 10 n)) = n := by
  rw [padZeros, digitsValue_zeros_append]
  exact Nat.ofDigitChars_ten_toDigits

theorem isDigit_of_mem_zeros {c : Char} {zeros : Nat} (h : c ∈ List.replicate zeros '0') :
    c.isDigit = true := by
  rw [List.eq_of_mem_replicate h]
  decide

namespace Decimal

/-- The digits of a decimal are the significant ones and zeros behind them. -/
theorem exists_zeros (d : Decimal) :
    ∃ zeros, Nat.toDigits 10 d.digits = d.significant ++ List.replicate zeros '0' := by
  refine ⟨((Nat.toDigits 10 d.digits).reverse.takeWhile (· = '0')).length, ?_⟩
  have hzeros : (Nat.toDigits 10 d.digits).reverse.takeWhile (· = '0') =
      List.replicate ((Nat.toDigits 10 d.digits).reverse.takeWhile (· = '0')).length '0' := by
    refine List.eq_replicate_of_mem fun c hc => ?_
    simpa using List.mem_takeWhile_imp hc
  rw [← List.reverse_replicate, ← hzeros, significant, ← List.reverse_append,
    List.takeWhile_append_dropWhile, List.reverse_reverse]

/-- All digits are significant if the last one is no zero. -/
theorem significant_of_not_dvd {d : Decimal} (h : ¬ 10 ∣ d.digits) :
    d.significant = Nat.toDigits 10 d.digits := by
  obtain ⟨zeros, hdigits⟩ := d.exists_zeros
  cases zeros with
  | zero => simpa using hdigits.symm
  | succ zeros =>
    have hvalue : d.digits = digitsValue d.significant * 10 ^ (zeros + 1) := by
      rw [← digitsValue_append_zeros, ← hdigits]
      exact Nat.ofDigitChars_ten_toDigits.symm
    exact absurd (hvalue ▸ Dvd.dvd.mul_left (dvd_pow_self 10 (Nat.succ_ne_zero zeros)) _) h

/-- The place of the point behind the first digit. -/
def point (d : Decimal) : Int := (Nat.toDigits 10 d.digits).length + d.exponent

/-- A decimal reads as its significant digits do with the point at its place. -/
theorem ofDecimal_significant (d : Decimal) (negative : Bool) :
    Double.ofDecimal negative (digitsValue d.significant) (d.point - d.significant.length) =
      Double.ofDecimal negative d.digits d.exponent := by
  obtain ⟨zeros, hdigits⟩ := d.exists_zeros
  have hvalue : d.digits = digitsValue d.significant * 10 ^ zeros := by
    rw [← digitsValue_append_zeros, ← hdigits]
    exact Nat.ofDigitChars_ten_toDigits.symm
  have hpoint : d.exponent = d.point - d.significant.length - zeros := by
    rw [point, hdigits, List.length_append, List.length_replicate]
    omega
  rw [hpoint, hvalue, Double.ofDecimal_shift]

section
variable {d : Decimal}

theorem isDigit_of_mem_significant {c : Char} (hc : c ∈ d.significant) : c.isDigit = true := by
  obtain ⟨zeros, hdigits⟩ := d.exists_zeros
  exact Json.isDigit_of_mem_toDigits (n := d.digits) (by rw [hdigits]; exact List.mem_append_left _ hc)

/-- The first significant digit of a number that is not zero is no zero. -/
theorem exists_significant_cons (hpos : 0 < d.digits) :
    ∃ c cs, d.significant = c :: cs ∧ c ≠ '0' := by
  obtain ⟨zeros, hdigits⟩ := d.exists_zeros
  have hhead := Json.head?_toDigits hpos
  cases hsignificant : d.significant with
  | nil =>
    rw [hsignificant, List.nil_append] at hdigits
    cases zeros with
    | zero => exact absurd hdigits Nat.toDigits_ne_nil
    | succ zeros => exact absurd (by rw [hdigits]; rfl) hhead
  | cons c cs =>
    refine ⟨c, cs, rfl, ?_⟩
    rintro rfl
    exact hhead (by rw [hdigits, hsignificant]; rfl)

end

end Decimal

/-! ## Numerals -/

/-- A number as it is written: its whole digits, those behind the point, and those of the exponent,
with whether the exponent is negative. -/
structure Numeral where
  whole : List Char
  fraction : List Char
  power : Option (Bool × List Char)

namespace Numeral

/-- The exponent and what it is announced by. -/
def powerChars : Option (Bool × List Char) → List Char
  | none => []
  | some (below, digits) => 'e' :: (if below then '-' else '+') :: digits

/-- The point and the digits behind it, if there are any. -/
def fractionChars : List Char → List Char
  | [] => []
  | c :: cs => '.' :: c :: cs

theorem fractionChars_of_ne_nil {fraction : List Char} (h : fraction ≠ []) :
    fractionChars fraction = '.' :: fraction := by
  cases fraction with
  | nil => exact absurd rfl h
  | cons c cs => rfl

def chars (n : Numeral) : List Char := n.whole ++ (fractionChars n.fraction ++ powerChars n.power)

def exponent : Option (Bool × List Char) → Int
  | none => 0
  | some (below, digits) => if below then -(digitsValue digits : Int) else digitsValue digits

/-- What the numeral is read as. -/
def value (n : Numeral) (negative : Bool) : Double :=
  Double.ofDecimal negative (digitsValue (n.whole ++ n.fraction)) (exponent n.power - n.fraction.length)

/-- Whole digits are there and begin with a zero only if it is all of them; and the number has a
fraction or an exponent, so it is no whole number. -/
structure WellFormed (n : Numeral) : Prop where
  whole : n.whole = ['0'] ∨ n.whole ≠ [] ∧ n.whole.head? ≠ some '0'
  whole_isDigit : ∀ c ∈ n.whole, c.isDigit = true
  fraction_isDigit : ∀ c ∈ n.fraction, c.isDigit = true
  power_isDigit : ∀ below digits, n.power = some (below, digits) →
    digits ≠ [] ∧ ∀ c ∈ digits, c.isDigit = true
  not_whole : n.fraction ≠ [] ∨ n.power ≠ none

end Numeral

/-! ## Layouts -/

namespace Decimal

variable {d : Decimal}

/-- The numeral is well formed and reads as the decimal does. -/
structure WrittenAs (d : Decimal) (n : Numeral) : Prop where
  wellFormed : n.WellFormed
  value_eq : ∀ negative, n.value negative = Double.ofDecimal negative d.digits d.exponent

/-- A number below one: zeros stand between the point and its digits. -/
theorem writtenAs_below_one (hpos : 0 < d.digits) (hpoint : d.point ≤ 0) :
    WrittenAs d ⟨['0'], List.replicate (-d.point).toNat '0' ++ d.significant, none⟩ where
  wellFormed := by
    obtain ⟨c, cs, hsignificant, -⟩ := exists_significant_cons hpos
    refine ⟨Or.inl rfl, by simp, ?_, by simp, Or.inl (by simp [hsignificant])⟩
    intro c hc
    rcases List.mem_append.1 hc with hc | hc
    · exact isDigit_of_mem_zeros hc
    · exact isDigit_of_mem_significant hc
  value_eq negative := by
    have hdigits : digitsValue (['0'] ++ (List.replicate (-d.point).toNat '0' ++ d.significant)) =
        digitsValue d.significant := by
      rw [← List.append_assoc, List.singleton_append, ← List.replicate_succ, digitsValue_zeros_append]
    have hexponent : (0 : Int) - (List.replicate (-d.point).toNat '0' ++ d.significant).length =
        d.point - d.significant.length := by
      rw [List.length_append, List.length_replicate]
      omega
    rw [← d.ofDecimal_significant, Numeral.value, hdigits]
    exact congrArg _ hexponent

/-- A whole number: zeros stand between its digits and the point, and one behind it. -/
theorem writtenAs_whole (hpos : 0 < d.digits) (hpoint : d.significant.length ≤ d.point.toNat) :
    WrittenAs d ⟨d.significant ++ List.replicate (d.point.toNat - d.significant.length) '0', ['0'], none⟩ where
  wellFormed := by
    obtain ⟨c, cs, hsignificant, hc⟩ := exists_significant_cons hpos
    refine ⟨Or.inr ⟨by simp [hsignificant], by simp [hsignificant, hc]⟩, ?_, by simp, by simp,
      Or.inl (by simp)⟩
    intro c hc
    rcases List.mem_append.1 hc with hc | hc
    · exact isDigit_of_mem_significant hc
    · exact isDigit_of_mem_zeros hc
  value_eq negative := by
    obtain ⟨c, cs, hsignificant, -⟩ := exists_significant_cons hpos
    have hlength : 0 < d.significant.length := by simp [hsignificant]
    obtain ⟨zeros, hzeros⟩ : ∃ zeros, zeros = d.point.toNat - d.significant.length := ⟨_, rfl⟩
    have hdigits : digitsValue (d.significant ++ List.replicate zeros '0' ++ ['0']) =
        digitsValue d.significant * 10 ^ (zeros + 1) := by
      rw [← digitsValue_append_zeros, List.replicate_succ', List.append_assoc]
    have hexponent : (0 : Int) - (['0'] : List Char).length =
        d.point - d.significant.length - (zeros + 1 : Nat) := by
      simp only [List.length_singleton]
      omega
    rw [← d.ofDecimal_significant, ← Double.ofDecimal_shift _ _ _ (zeros + 1), ← hexponent, ← hdigits,
      hzeros]
    rfl

/-- A number with digits on both sides of the point. -/
theorem writtenAs_around (hpos : 0 < d.digits) (hpoint : 0 < d.point)
    (hlength : d.point.toNat < d.significant.length) :
    WrittenAs d ⟨d.significant.take d.point.toNat, d.significant.drop d.point.toNat, none⟩ where
  wellFormed := by
    obtain ⟨c, cs, hsignificant, hc⟩ := exists_significant_cons hpos
    obtain ⟨place, hplace⟩ : ∃ place, d.point.toNat = place + 1 := ⟨d.point.toNat - 1, by omega⟩
    have hfraction : d.significant.drop d.point.toNat ≠ [] := by
      rw [← List.length_pos_iff, List.length_drop]
      omega
    refine ⟨Or.inr ?_, fun c hc => ?_, fun c hc => ?_, by simp, Or.inl hfraction⟩
    · simp [hsignificant, hplace, hc]
    · exact isDigit_of_mem_significant (List.mem_of_mem_take hc)
    · exact isDigit_of_mem_significant (List.mem_of_mem_drop hc)
  value_eq negative := by
    have hexponent : (0 : Int) - (d.significant.drop d.point.toNat).length =
        d.point - d.significant.length := by
      rw [List.length_drop]
      omega
    rw [← d.ofDecimal_significant, Numeral.value, List.take_append_drop]
    exact congrArg _ hexponent

/-- A number with an exponent: the point stands behind its first digit. -/
theorem writtenAs_power {c : Char} {cs : List Char} (hsignificant : d.significant = c :: cs)
    (hc : c ≠ '0') (width : Nat) :
    WrittenAs d ⟨[c], cs,
      some (decide (d.point - 1 < 0), padZeros width (Nat.toDigits 10 (d.point - 1).natAbs))⟩ where
  wellFormed := by
    have hdigit : ∀ a ∈ c :: cs, a.isDigit = true := by
      intro a ha
      exact isDigit_of_mem_significant (by rwa [hsignificant])
    refine ⟨Or.inr ⟨by simp, by simp [hc]⟩, fun a ha => ?_, fun a ha => ?_, ?_, Or.inr (by simp)⟩
    · exact hdigit a (List.mem_cons.2 (Or.inl (List.mem_singleton.1 ha)))
    · exact hdigit a (List.mem_cons_of_mem c ha)
    · intro below digits hpower
      rw [Option.some.injEq, Prod.mk.injEq] at hpower
      obtain ⟨-, rfl⟩ := hpower
      refine ⟨by simp [padZeros, Nat.toDigits_ne_nil], fun a ha => ?_⟩
      rcases List.mem_append.1 ha with ha | ha
      · exact isDigit_of_mem_zeros ha
      · exact Json.isDigit_of_mem_toDigits ha
  value_eq negative := by
    have hexponent : (if decide (d.point - 1 < 0) = true then -((d.point - 1).natAbs : Int)
        else (d.point - 1).natAbs) = d.point - 1 := by
      by_cases hbelow : d.point - 1 < 0
      · simp only [hbelow, decide_true, if_true]
        omega
      · simp only [hbelow, decide_false, Bool.false_eq_true, if_false]
        omega
    have hplace : d.point - 1 - (cs.length : Int) = d.point - d.significant.length := by
      rw [hsignificant, List.length_cons]
      omega
    rw [← d.ofDecimal_significant, ← hplace]
    simp only [Numeral.value, Numeral.exponent, digitsValue_padZeros, hexponent, hsignificant,
      List.singleton_append]

/-- **A decimal under the plain layout is a numeral that reads as the decimal does.** -/
theorem exists_numeral (hpos : 0 < d.digits) : ∃ n, WrittenAs d n ∧ d.layOut .plain = n.chars := by
  obtain ⟨c, cs, hsignificant, hc⟩ := exists_significant_cons hpos
  have hpoint : ((Nat.toDigits 10 d.digits).length : Int) + d.exponent = d.point := rfl
  unfold layOut
  dsimp only
  rw [hpoint]
  split
  · split
    · rename_i hbelow
      refine ⟨_, writtenAs_below_one hpos hbelow, ?_⟩
      rw [Numeral.chars, Numeral.fractionChars_of_ne_nil (by simp [hsignificant])]
      simp [Numeral.powerChars]
    · rename_i habove
      split
      · rename_i hwhole
        exact ⟨_, writtenAs_whole hpos hwhole, rfl⟩
      · rename_i haround
        refine ⟨_, writtenAs_around hpos (by omega) (by omega), ?_⟩
        have hfraction : d.significant.drop d.point.toNat ≠ [] := by
          rw [← List.length_pos_iff, List.length_drop]
          omega
        rw [Numeral.chars, Numeral.fractionChars_of_ne_nil hfraction]
        simp [Numeral.powerChars]
  · refine ⟨_, writtenAs_power hsignificant hc NumberLayout.plain.exponentWidth, ?_⟩
    rw [hsignificant]
    cases cs <;> simp [Numeral.chars, Numeral.fractionChars, Numeral.powerChars]

end Decimal

end Compendium
