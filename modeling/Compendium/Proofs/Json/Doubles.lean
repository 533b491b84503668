import Compendium.Proofs.Decimal.Layout
import Compendium.Proofs.Decimal.Shortest
import Compendium.Proofs.Json.Objects
import Compendium.Proofs.Json.Readings

/-!
# Doubles read back

A double is written as the shortest decimal that reads back, under the plain layout, and the reader
takes such a numeral part by part: the whole digits, the fraction, and the exponent. So a double comes
back as it was (`readsBack_float`), those that are not finite by their names. What was read holds
doubles only. Main theorem `readsBack_of_storable`: so a value that can be stored is read back.
-/

namespace Compendium.Json

/-! ## Reading numerals -/

open Numeral (powerChars fractionChars)

section
variable {rest : List Char} (hrest : FollowsValue rest)
include hrest

theorem endsDigits_powerChars (power : Option (Bool × List Char)) :
    EndsDigits (powerChars power ++ rest) := by
  rcases power with _ | ⟨below, digits⟩
  · exact endsDigits_of_followsValue hrest
  · intro c hc
    have he : 'e' = c := Option.some.inj hc
    exact he ▸ rfl

theorem endsDigits_fractionChars (fraction : List Char) (power : Option (Bool × List Char)) :
    EndsDigits (fractionChars fraction ++ (powerChars power ++ rest)) := by
  rcases fraction with _ | ⟨c, cs⟩
  · exact endsDigits_powerChars hrest power
  · intro d hd
    have hpoint : '.' = d := Option.some.inj hd
    exact hpoint ▸ rfl

theorem fractionPart?_chars {fraction : List Char} (hdigits : ∀ c ∈ fraction, c.isDigit = true)
    (power : Option (Bool × List Char)) :
    (fractionPart? (fractionChars fraction ++ (powerChars power ++ rest))).getD
        ⟨[], 0, fractionChars fraction ++ (powerChars power ++ rest)⟩ =
      ⟨fraction, (fractionChars fraction).length, powerChars power ++ rest⟩ := by
  rcases fraction with _ | ⟨c, cs⟩
  · have hnone : fractionPart? (powerChars power ++ rest) = none := by
      rcases power with _ | ⟨below, digits⟩
      · exact fractionPart?_of_followsValue hrest
      · rfl
    simp [fractionChars, hnone]
  · have hread := leadingDigits?_append hdigits (endsDigits_powerChars hrest power) (by simp) 1
    have hpoint : fractionChars (c :: cs) ++ (powerChars power ++ rest) =
        '.' :: (c :: cs ++ (powerChars power ++ rest)) := rfl
    rw [hpoint, fractionPart?, hread]
    simp [fractionChars, Nat.add_comm]

theorem exponentPart?_chars {power : Option (Bool × List Char)}
    (hpower : ∀ below digits, power = some (below, digits) →
      digits ≠ [] ∧ ∀ c ∈ digits, c.isDigit = true) :
    ∃ below digits, (exponentPart? (powerChars power ++ rest)).getD
        (false, ⟨[], 0, powerChars power ++ rest⟩) =
        (below, ⟨digits, (powerChars power).length, rest⟩) ∧
      (if below then -(digitsValue digits : Int) else digitsValue digits) =
        Numeral.exponent power := by
  rcases power with _ | ⟨below, digits⟩
  · refine ⟨false, [], ?_, rfl⟩
    simp [powerChars, exponentPart?_of_followsValue hrest]
  · obtain ⟨hne, hdigits⟩ := hpower below digits rfl
    have hread := leadingDigits?_append hdigits (endsDigits_of_followsValue hrest) hne 2
    have hlength : (powerChars (some (below, digits))).length = 2 + digits.length := by
      simp only [powerChars, List.length_cons]
      omega
    refine ⟨below, digits, ?_, rfl⟩
    rw [hlength]
    cases below <;> simp [powerChars, exponentPart?, hread]

/-- A numeral is read part by part. -/
theorem readMagnitude_chars {n : Numeral} (h : n.WellFormed) (negative : Bool)
    (signSize offset : Nat) :
    readMagnitude negative signSize offset (n.chars ++ rest) =
      .ok (.float (n.value negative), ⟨offset + signSize + n.chars.length, rest⟩) := by
  have hchars : n.chars ++ rest =
      n.whole ++ (fractionChars n.fraction ++ (powerChars n.power ++ rest)) := by
    simp [Numeral.chars]
  obtain ⟨below, digits, hpower, hexponent⟩ := exponentPart?_chars hrest h.power_isDigit
  have hsize : ¬ ((fractionChars n.fraction).length = 0 ∧ (powerChars n.power).length = 0) := by
    rintro ⟨hfraction, hnone⟩
    rcases h.not_whole with hne | hne
    · simp [Numeral.fractionChars_of_ne_nil hne] at hfraction
    · obtain ⟨⟨b, ds⟩, hsome⟩ := Option.ne_none_iff_exists'.1 hne
      simp [hsome, powerChars] at hnone
  rw [hchars, readMagnitude,
    wholePart?_append h.whole_isDigit (endsDigits_fractionChars hrest n.fraction n.power) h.whole]
  dsimp only
  rw [fractionPart?_chars hrest h.fraction_isDigit]
  dsimp only
  rw [hpower]
  dsimp only
  rw [if_neg hsize, hexponent]
  simp [Numeral.value, Numeral.chars, pure, Except.pure, Nat.add_assoc]

end

/-! ## Doubles -/

/-- A double is written as a numeral that it is read from. -/
theorem exists_numeral_magnitudeText {units : Nat} (hbound : units < Double.bound)
    (hspaced : Double.spacing units ∣ units) :
    ∃ n : Numeral, n.WellFormed ∧ Double.magnitudeText .plain units = n.chars ∧
      ∀ negative, n.value negative = .finite negative units := by
  unfold Double.magnitudeText
  rcases Nat.eq_zero_or_pos units with rfl | hpos
  · refine ⟨⟨['0'], ['0'], none⟩, ⟨Or.inl rfl, by simp, by simp, by simp, Or.inl (by simp)⟩, rfl, ?_⟩
    intro negative
    have hzero : digitsValue (['0'] ++ ['0']) = 0 := rfl
    simp only [Numeral.value, hzero, Double.ofDecimal, true_or, if_true]
  · have hreads := Double.readsBack_shortest hpos hbound hspaced
    obtain ⟨n, hwritten, hchars⟩ := Decimal.exists_numeral (Double.digits_pos_of_readsBack hpos hreads)
    refine ⟨n, hwritten.wellFormed, by rw [if_neg (by omega), hchars], fun negative => ?_⟩
    rw [hwritten.value_eq, Double.ofDecimal_of_positive (Double.readsBack_iff.1 hreads)]

theorem exists_chars_cons {n : Numeral} (h : n.WellFormed) :
    ∃ c cs, n.chars = c :: cs ∧ c.isDigit = true := by
  have hdigits := h.whole_isDigit
  cases hwhole : n.whole with
  | nil => rcases h.whole with hne | ⟨hne, -⟩ <;> simp [hwhole] at hne
  | cons c cs =>
    exact ⟨c, cs ++ (fractionChars n.fraction ++ powerChars n.power), by simp [Numeral.chars, hwhole],
      hdigits c (by simp [hwhole])⟩

theorem mem_chars {n : Numeral} (h : n.WellFormed) {c : Char} (hc : c ∈ n.chars) :
    c.isDigit = true ∨ c ∈ ['.', 'e', '-', '+'] := by
  have hfraction : c ∈ fractionChars n.fraction → c.isDigit = true ∨ c = '.' := by
    intro hc
    have hdigits := h.fraction_isDigit
    rcases hn : n.fraction with _ | ⟨d, ds⟩
    · simp [hn, fractionChars] at hc
    · rw [hn] at hc hdigits
      rcases List.mem_cons.1 hc with rfl | hc
      · exact Or.inr rfl
      · exact Or.inl (hdigits c hc)
  have hpower : c ∈ powerChars n.power → c.isDigit = true ∨ c = 'e' ∨ c = '-' ∨ c = '+' := by
    intro hc
    rcases hn : n.power with _ | ⟨below, digits⟩
    · simp [hn, powerChars] at hc
    · obtain ⟨-, hdigits⟩ := h.power_isDigit below digits hn
      rw [hn] at hc
      rcases List.mem_cons.1 hc with rfl | hc
      · exact Or.inr (Or.inl rfl)
      · rcases List.mem_cons.1 hc with rfl | hc
        · cases below <;> simp
        · exact Or.inl (hdigits c hc)
  simp only [Numeral.chars, List.mem_append] at hc
  simp only [List.mem_cons, List.not_mem_nil, or_false]
  rcases hc with hc | hc | hc
  · exact Or.inl (h.whole_isDigit c hc)
  · exact (hfraction hc).imp_right Or.inl
  · exact (hpower hc).imp_right Or.inr

theorem ascii_chars {n : Numeral} (h : n.WellFormed) {c : Char} (hc : c ∈ n.chars) :
    c.toNat < 128 ∧ c ≠ '\r' := by
  rcases mem_chars h hc with hdigit | hmark
  · refine ⟨by have := toNat_of_isDigit hdigit; omega, ?_⟩
    rintro rfl
    exact absurd hdigit (by decide)
  · simp only [List.mem_cons, List.not_mem_nil, or_false] at hmark
    rcases hmark with rfl | rfl | rfl | rfl <;> decide

theorem floatChars_finite (negative : Bool) (units : Nat) :
    floatChars (.finite negative units) =
      if negative then '-' :: Double.magnitudeText .plain units else Double.magnitudeText .plain units := by
  simp [floatChars, Double.textWith]

/-- A numeral is read back with its sign. -/
theorem readsBack_of_numeral {n : Numeral} (h : n.WellFormed) {x : Double} (negative : Bool)
    (hchars : floatChars x = if negative then '-' :: n.chars else n.chars)
    (hvalue : n.value negative = x) : ReadsBack (.float x) := by
  obtain ⟨c, cs, hcons, hc⟩ := exists_chars_cons h
  have hrange := toNat_of_isDigit hc
  have hread := fun signSize offset rest (hrest : FollowsValue rest) =>
    readMagnitude_chars hrest h negative signSize offset
  simp only [hcons, hvalue, List.cons_append] at hread hchars
  cases negative with
  | false =>
    refine readsBack_scalar (fun depth => by rw [indentedChars, hchars]; rfl)
      (isSpace_of_range (by omega)) (fun d hd => ascii_chars h (hcons ▸ hd)) (fun offset rest hrest => ?_)
    rw [List.cons_append, readScalar, word?_digit hc]
    exact (readNumber_digit hc offset (cs ++ rest)).trans (hread 0 offset rest hrest)
  | true =>
    refine readsBack_scalar (fun depth => by rw [indentedChars, hchars]; rfl) (by decide)
      (fun d hd => ?_) (fun offset rest hrest => ?_)
    · rcases List.mem_cons.1 hd with rfl | hd
      · decide
      · exact ascii_chars h (hcons ▸ hd)
    · rw [List.cons_append, List.cons_append, readScalar, word?_minus_digit hc]
      have hnumber := hread 1 offset rest hrest
      rw [Nat.add_assoc, Nat.add_comm 1] at hnumber
      exact hnumber

/-- **A double is read back.** -/
theorem readsBack_float {x : Double} (h : x.Representable) : ReadsBack (.float x) := by
  cases h with
  | nan => exact readsBack_word (w := "NaN".toList) (by simp [words]) fun _ => rfl
  | infinite negative =>
    cases negative with
    | false => exact readsBack_word (w := "Infinity".toList) (by simp [words]) fun _ => rfl
    | true => exact readsBack_word (w := "-Infinity".toList) (by simp [words]) fun _ => rfl
  | finite negative hbound hspaced =>
    obtain ⟨n, hn, hchars, hvalue⟩ := exists_numeral_magnitudeText hbound hspaced
    exact readsBack_of_numeral hn negative (by rw [floatChars_finite, hchars]) (hvalue negative)

/-! ## Values that can be stored -/

/-- A value in which every number that is not whole is a double. -/
inductive HoldsDoubles : Json → Prop where
  | null : HoldsDoubles .null
  | bool (b : Bool) : HoldsDoubles (.bool b)
  | int (n : Int) : HoldsDoubles (.int n)
  | float {x : Double} (representable : x.Representable) : HoldsDoubles (.float x)
  | str (s : Text) : HoldsDoubles (.str s)
  | arr {items : List Json} (items_hold : ∀ v ∈ items, HoldsDoubles v) : HoldsDoubles (.arr items)
  | obj {fields : List (Text × Json)} (fields_hold : ∀ f ∈ fields, HoldsDoubles f.2) :
      HoldsDoubles (.obj fields)

theorem holdsDoubles_of_mem_words {w : List Char × Json} (h : w ∈ words) : w.2.HoldsDoubles := by
  simp only [words, List.mem_cons, List.not_mem_nil, or_false] at h
  rcases h with rfl | rfl | rfl | rfl | rfl | rfl
  · exact .null
  · exact .bool _
  · exact .bool _
  · exact .float .nan
  · exact .float (.infinite _)
  · exact .float (.infinite _)

theorem holdsDoubles_of_wholeNumber {negative : Bool} {digits : List Char} {v : Json}
    (h : wholeNumber negative digits = .ok v) : v.HoldsDoubles := by
  unfold wholeNumber at h
  split at h
  · obtain rfl := Except.ok.inj h
    exact .int _
  · exact absurd h (by simp)

/-- What is read holds doubles only. -/
theorem holdsDoubles_of_read {text : List Char} {v : Json} (h : read text = .ok v) : v.HoldsDoubles :=
  of_readAll ⟨⟨fun _ => holdsDoubles_of_mem_words, fun _ => holdsDoubles_of_wholeNumber,
    fun _ _ _ => .float (Double.representable_ofDecimal _ _ _)⟩, .str, .arr, fun _ => .obj⟩
    (readAll_of_read h)

/-- A value that can be stored: no object has two fields of one name, a whole number has no more
digits than the reader takes, and every other number is a double. -/
structure Storable (v : Json) : Prop where
  tidy : v.Tidy
  doubles : v.HoldsDoubles

theorem storable_of_read {text : List Char} {v : Json} (h : read text = .ok v) : v.Storable :=
  ⟨tidy_of_read h, holdsDoubles_of_read h⟩

theorem storable_obj_iff {fields : List (Text × Json)} :
    (Json.obj fields).Storable ↔ (Fields.names fields).Nodup ∧ ∀ f ∈ fields, f.2.Storable := by
  constructor
  · rintro ⟨htidy, hdoubles⟩
    cases htidy with
    | obj hnodup htidy =>
      cases hdoubles with
      | obj hdoubles => exact ⟨hnodup, fun f hf => ⟨htidy f hf, hdoubles f hf⟩⟩
  · rintro ⟨hnodup, hfields⟩
    exact ⟨.obj hnodup fun f hf => (hfields f hf).tidy, .obj fun f hf => (hfields f hf).doubles⟩

theorem Storable.get? {fields : List (Text × Json)} {name : Text} {v : Json}
    (h : (Json.obj fields).Storable) (hget : Fields.get? fields name = some v) : v.Storable :=
  (storable_obj_iff.1 h).2 _ (Fields.mem_of_get? hget)

/-- **A value that can be stored is read back.** -/
theorem readsBack_of_storable {v : Json} (h : v.Storable) : ReadsBack v := by
  obtain ⟨htidy, hdoubles⟩ := h
  induction htidy with
  | null => exact readsBack_null
  | bool b => exact readsBack_bool b
  | int hshort => exact readsBack_int hshort
  | float x =>
    cases hdoubles with
    | float hx => exact readsBack_float hx
  | str s => exact readsBack_str s
  | arr _ ih =>
    cases hdoubles with
    | arr hitems => exact readsBack_arr fun v hv => ih v hv (hitems v hv)
  | obj hnodup _ ih =>
    cases hdoubles with
    | obj hfields => exact readsBack_obj hnodup fun f hf => ih f hf (hfields f hf)

end Compendium.Json
