import Compendium.Entry.Record
import Compendium.Filter
import Compendium.Proofs.Json.Numerals
import Mathlib.Data.Nat.Cast.Field
import Mathlib.Data.Rat.Cast.CharZero
import Mathlib.Tactic.Linarith

/-!
# Levels and tiers that are numbers

A level or a tier is compared with a filter by its label. The label of a whole number, exact or a
double of either sign of zero and any size, is the numeral of it; that of any other double has a
point, an exponent or a name in it and is no numeral (`exists_not_isDigit_text`). So comparing labels
with a numeral compares numbers (`label_eq_repr_iff`). Main theorem `passes_repr_iff`: a filter for a
number passes the entries whose level or tier is that number, or the text that it is written as.
-/

namespace Compendium

/-! ## The value of a scalar -/

def Double.value? : Double → Option ℚ
  | .finite negative units => some ((if negative then -1 else 1) * ((units : ℚ) / (one : ℚ)))
  | _ => none

namespace Scalar

def value? : Scalar → Option ℚ
  | .int n => some n
  | .float x => x.value?
  | .text _ => none

/-- The scalar is the number, exact or as a double, or the text that the number is written as. -/
def Denotes (s : Scalar) (n : Nat) : Prop := s.value? = some (n : ℚ) ∨ s = .text n.repr

end Scalar

/-! ## Whole numbers -/

theorem isDigit_of_mem_repr {n : Nat} {c : Char} (h : c ∈ n.repr.toList) : c.isDigit = true := by
  rw [Nat.toList_repr] at h
  exact Json.isDigit_of_mem_toDigits h

/-- A whole number is written as a numeral just when it is the number of that numeral. -/
theorem ofList_intChars_eq_repr_iff {m : Int} {n : Nat} :
    String.ofList (Json.intChars m) = n.repr ↔ m = n := by
  constructor
  · intro h
    unfold Json.intChars at h
    split at h
    · have hsign : '-' ∈ n.repr.toList := by
        rw [← h, String.toList_ofList]
        exact List.mem_cons_self
      exact absurd (isDigit_of_mem_repr hsign) (by decide)
    · rename_i hpos
      have hdigits := congrArg String.toList h
      rw [String.toList_ofList, Nat.toList_repr] at hdigits
      have habs := congrArg (Nat.ofDigitChars 10 · 0) hdigits
      simp only [Nat.ofDigitChars_ten_toDigits] at habs
      omega
  · rintro rfl
    rw [Json.intChars, if_neg (by omega)]
    rfl

/-! ## Doubles -/

namespace Decimal

/-- A decimal under the plain layout has a point or an exponent. -/
theorem exists_not_isDigit_layOut (d : Decimal) : ∃ c ∈ d.layOut .plain, c.isDigit = false := by
  have hpoint : '.'.isDigit = false := by decide
  have hpower : 'e'.isDigit = false := by decide
  unfold layOut
  dsimp only
  split
  · split
    · exact ⟨'.', by simp, hpoint⟩
    · split
      · exact ⟨'.', by simp [NumberLayout.plain], hpoint⟩
      · exact ⟨'.', by simp, hpoint⟩
  · exact ⟨'e', by simp, hpower⟩

end Decimal

namespace Double

theorem exists_not_isDigit_magnitude (units : Nat) :
    ∃ c ∈ magnitudeText .plain units, c.isDigit = false := by
  unfold magnitudeText
  split
  · exact ⟨'.', by decide, by decide⟩
  · exact Decimal.exists_not_isDigit_layOut _

/-- A double as shown to a reader is not digits only. -/
theorem exists_not_isDigit_text (x : Double) : ∃ c ∈ x.text.toList, c.isDigit = false := by
  cases x with
  | nan => exact ⟨'n', by decide, by decide⟩
  | infinite negative => cases negative <;> exact ⟨'i', by decide, by decide⟩
  | finite negative units =>
    obtain ⟨c, hc, hdigit⟩ := exists_not_isDigit_magnitude units
    refine ⟨c, ?_, hdigit⟩
    rw [text, textWith, String.toList_ofList]
    cases negative with
    | false => exact hc
    | true => exact List.mem_cons_of_mem _ hc

theorem text_ne_repr (x : Double) (n : Nat) : x.text ≠ n.repr := by
  intro h
  obtain ⟨c, hc, hdigit⟩ := exists_not_isDigit_text x
  rw [h] at hc
  rw [isDigit_of_mem_repr hc] at hdigit
  exact absurd hdigit (by simp)

theorem one_ne_zero : (one : ℚ) ≠ 0 := Nat.cast_ne_zero.2 (Nat.ne_of_gt (by decide +kernel))

/-- The value of a whole number is the number that it shows as. -/
theorem value?_of_isWhole {x : Double} (h : x.isWhole = true) : x.value? = some (x.whole : ℚ) := by
  cases x with
  | nan => simp [isWhole] at h
  | infinite negative => simp [isWhole] at h
  | finite negative units =>
    have hdvd : one ∣ units := Nat.dvd_of_mod_eq_zero (by simpa [isWhole] using h)
    rw [value?, whole, ← Nat.cast_div hdvd one_ne_zero]
    cases negative with
    | false => simp only [Bool.false_eq_true, if_false, one_mul, Int.cast_natCast]
    | true => simp only [if_true, neg_mul, one_mul, Int.cast_neg, Int.cast_natCast]

/-- A number whose value is a whole number is whole. -/
theorem isWhole_of_value? {x : Double} {n : Nat} (h : x.value? = some (n : ℚ)) : x.isWhole = true := by
  cases x with
  | nan => simp [value?] at h
  | infinite negative => simp [value?] at h
  | finite negative units =>
    have hdvd : one ∣ units := by
      cases negative with
      | false =>
        have hquotient : (units : ℚ) / one = n := by
          simpa only [value?, Bool.false_eq_true, if_false, one_mul, Option.some.injEq] using h
        rw [div_eq_iff one_ne_zero] at hquotient
        have hunits : units = n * one := by exact_mod_cast hquotient
        exact Dvd.intro_left n hunits.symm
      | true =>
        -- only zero has a value that is not negative
        have hquotient : -((units : ℚ) / one) = n := by
          simpa only [value?, if_true, neg_mul, one_mul, Option.some.injEq] using h
        have hpos : (0 : ℚ) ≤ units / one := div_nonneg (Nat.cast_nonneg _) (Nat.cast_nonneg _)
        have hzero : (units : ℚ) / one = 0 := by linarith [Nat.cast_nonneg (α := ℚ) n]
        rw [div_eq_zero_iff, or_iff_left one_ne_zero] at hzero
        have hunits : units = 0 := Nat.cast_eq_zero.1 hzero
        rw [hunits]
        exact Nat.dvd_zero one
    rw [isWhole, decide_eq_true_iff]
    exact Nat.mod_eq_zero_of_dvd hdvd

end Double

/-! ## Labels -/

/-- **A scalar has a numeral for its label just when it is the number of the numeral**, or the text. -/
theorem Scalar.label_eq_repr_iff {s : Scalar} {n : Nat} : s.label = n.repr ↔ s.Denotes n := by
  cases s with
  | int m =>
    have hlabel : (Scalar.int m).label = String.ofList (Json.intChars m) := by
      simp [label, toJson, Json.label?, Json.display, Json.inner]
    rw [hlabel, ofList_intChars_eq_repr_iff, Denotes, value?, Option.some.injEq,
      or_iff_left (by simp)]
    exact_mod_cast Iff.rfl
  | float x =>
    rw [Denotes, value?, or_iff_left (by simp)]
    by_cases hwhole : x.isWhole = true
    · have hlabel : (Scalar.float x).label = String.ofList (Json.intChars x.whole) := by
        simp [label, toJson, Json.label?, hwhole]
      rw [hlabel, ofList_intChars_eq_repr_iff, Double.value?_of_isWhole hwhole, Option.some.injEq]
      exact_mod_cast Iff.rfl
    · have hlabel : (Scalar.float x).label = x.text := by
        simp [label, toJson, Json.label?, hwhole]
      rw [hlabel]
      constructor
      · intro h
        exact absurd h (x.text_ne_repr n)
      · intro h
        exact absurd (Double.isWhole_of_value? h) hwhole
  | text t =>
    have hlabel : (Scalar.text t).label = t := by
      simp [label, toJson, Json.label?, Json.display]
    simp [hlabel, Denotes, value?]

namespace Filter

theorem labelIs_repr_iff {scalar : Option Scalar} {n : Nat} :
    labelIs scalar n.repr = true ↔ ∃ s, scalar = some s ∧ s.Denotes n := by
  cases scalar with
  | none => simp [labelIs]
  | some s => simp [labelIs, Scalar.label_eq_repr_iff]

theorem accepts_level_iff {e : Entry} {n : Nat} :
    accepts .level e n.repr = true ↔ ∃ c s, e = .creature c ∧ c.level = some s ∧ s.Denotes n := by
  cases e with
  | creature c => simp [accepts, labelIs_repr_iff]
  | spell s => simp [accepts]
  | item i => simp [accepts]

theorem accepts_tier_iff {e : Entry} {n : Nat} :
    accepts .tier e n.repr = true ↔ ∃ sp s, e = .spell sp ∧ sp.tier = some s ∧ s.Denotes n := by
  cases e with
  | creature c => simp [accepts]
  | spell s => simp [accepts, labelIs_repr_iff]
  | item i => simp [accepts]

/-- **A filter for a number passes the entries that have it**: a creature by its level, under either
key, and a spell by its tier. -/
theorem passes_repr_iff (e : Entry) (n : Nat) :
    (passes e [("level", n.repr)] = true ↔
        ∃ c s, e = .creature c ∧ c.level = some s ∧ s.Denotes n) ∧
      (passes e [("lv", n.repr)] = true ↔
        ∃ c s, e = .creature c ∧ c.level = some s ∧ s.Denotes n) ∧
      (passes e [("tier", n.repr)] = true ↔
        ∃ sp s, e = .spell sp ∧ sp.tier = some s ∧ s.Denotes n) := by
  refine ⟨?_, ?_, ?_⟩
  · rw [passes_singleton (f := .level) rfl, accepts_level_iff]
  · rw [passes_singleton (f := .level) rfl, accepts_level_iff]
  · rw [passes_singleton (f := .tier) rfl, accepts_tier_iff]

/-- Minus zero is level zero. -/
example : passes (.ofFields .creature [("level", .float (.finite true 0))]) [("lv", "0")] = true := by
  decide +kernel

end Filter

end Compendium
