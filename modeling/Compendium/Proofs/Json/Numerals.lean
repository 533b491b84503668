import Compendium.Proofs.Json.Written

/-!
# Numerals read back

A whole number is written in digits that begin with no zero, unless it is zero, so reading takes
them all and stops at what follows, which is no digit, point or exponent. The reader counts the
digits, so what is read back is a number of no more digits than it takes (`IsShort`); main theorem
`readsBack_int`. Digits bound the number that they stand for, so what is read from no more digits is
such a number (`isShort_of_digits`).
-/

namespace Compendium.Json

/-! ## Digits -/

/-- The number has no more digits than a whole number that is read may have. -/
def IsShort (n : Int) : Prop := (Nat.toDigits 10 n.natAbs).length ≤ digitLimit

instance (n : Int) : Decidable (IsShort n) := inferInstanceAs (Decidable (_ ≤ _))

theorem isShort_neg {n : Int} : IsShort (-n) ↔ IsShort n := by
  unfold IsShort
  rw [Int.natAbs_neg]

theorem isShort_of_lt {n : Int} (count : Nat) (hn : n.natAbs < Nat.pow 10 count) (hcount : 0 < count)
    (hlimit : count ≤ digitLimit) : IsShort n := by
  have hlength := (Nat.length_toDigits_le_iff (b := 10) (by decide) hcount).2 hn
  exact Nat.le_trans hlength hlimit

theorem toNat_of_isDigit {c : Char} (hc : c.isDigit = true) : 48 ≤ c.toNat ∧ c.toNat ≤ 57 := by
  simp only [Char.isDigit, Bool.and_eq_true, decide_eq_true_eq, UInt32.le_iff_toNat_le] at hc
  exact hc

/-- Digits stand for a number below the power of ten that has a zero for each of them. -/
theorem ofDigitChars_lt {cs : List Char} (hdigits : ∀ c ∈ cs, c.isDigit = true) (init : Nat) :
    Nat.ofDigitChars 10 cs init < (init + 1) * Nat.pow 10 cs.length := by
  induction cs generalizing init with
  | nil => simp
  | cons c cs ih =>
    have hdigit := toNat_of_isDigit (hdigits c (by simp))
    have hzero : '0'.toNat = 48 := rfl
    have hrest := ih (fun d hd => hdigits d (List.mem_cons_of_mem c hd))
      (10 * init + (c.toNat - '0'.toNat))
    have hgrow : (10 * init + (c.toNat - '0'.toNat) + 1) * Nat.pow 10 cs.length ≤
        (init + 1) * Nat.pow 10 (cs.length + 1) := by
      have hpower : Nat.pow 10 (cs.length + 1) = 10 * Nat.pow 10 cs.length := Nat.pow_succ'
      rw [hpower, ← Nat.mul_assoc]
      exact Nat.mul_le_mul_right _ (by omega)
    rw [Nat.ofDigitChars_cons, List.length_cons]
    omega

/-- The number that few digits stand for is short. -/
theorem isShort_of_digits {cs : List Char} (hdigits : ∀ c ∈ cs, c.isDigit = true)
    (hlimit : cs.length ≤ digitLimit) : IsShort (Nat.ofDigitChars 10 cs 0 : Nat) := by
  cases cs with
  | nil => exact isShort_of_lt 1 (by simp) (by decide) (by decide)
  | cons c cs =>
    have hlt := ofDigitChars_lt hdigits 0
    rw [Nat.zero_add, Nat.one_mul] at hlt
    exact isShort_of_lt _ hlt (by simp) hlimit

theorem isDigit_of_mem_toDigits {n : Nat} {c : Char} (hc : c ∈ Nat.toDigits 10 n) :
    c.isDigit = true := Nat.isDigit_of_mem_toDigits (b := 10) (by decide) (by decide) hc

theorem head?_toDigits {n : Nat} (h : 0 < n) : (Nat.toDigits 10 n).head? ≠ some '0' := by
  induction n using Nat.strongRecOn with
  | ind n ih =>
    by_cases hsmall : n < 10
    · rw [Nat.toDigits_of_lt_base hsmall]
      have hdigit : ∀ d < 10, 0 < d → [Nat.digitChar d].head? ≠ some '0' := by decide
      exact hdigit n hsmall h
    · have hfront := ih (n / 10) (by omega) (by omega)
      rw [Nat.toDigits_of_base_le (by decide) (by omega)]
      cases hdigits : Nat.toDigits 10 (n / 10) with
      | nil => exact absurd hdigits Nat.toDigits_ne_nil
      | cons c cs => rwa [hdigits] at hfront

/-! ## Reading digits -/

/-- What follows digits: nothing, or something that is no digit. -/
def EndsDigits (rest : List Char) : Prop := ∀ c, rest.head? = some c → c.isDigit = false

theorem endsDigits_of_followsValue {rest : List Char} (h : FollowsValue rest) : EndsDigits rest := by
  intro c hc
  rcases h c hc with rfl | rfl <;> decide

section
variable {digits rest : List Char} (hdigits : ∀ c ∈ digits, c.isDigit = true) (hrest : EndsDigits rest)
include hdigits hrest

theorem leadingDigits?_append (hne : digits ≠ []) (lead : Nat) :
    leadingDigits? lead (digits ++ rest) = some ⟨digits, lead + digits.length, rest⟩ := by
  have hstop : rest.takeWhile Char.isDigit = [] ∧ rest.dropWhile Char.isDigit = rest := by
    cases rest with
    | nil => exact ⟨rfl, rfl⟩
    | cons c rest => simp [hrest c rfl]
  rw [leadingDigits?, List.takeWhile_append_of_pos hdigits, List.dropWhile_append_of_pos hdigits,
    hstop.1, hstop.2, List.append_nil]
  simp [hne]

/-- Digits that begin with a zero only if it is all of them are a whole part. -/
theorem wholePart?_append (hwhole : digits = ['0'] ∨ digits ≠ [] ∧ digits.head? ≠ some '0') :
    wholePart? (digits ++ rest) = some ⟨digits, digits.length, rest⟩ := by
  rcases hwhole with rfl | ⟨hne, hhead⟩
  · rfl
  · have hleading : wholePart? (digits ++ rest) = leadingDigits? 0 (digits ++ rest) := by
      cases digits with
      | nil => exact absurd rfl hne
      | cons c cs =>
        have hc : c ≠ '0' := by
          rintro rfl
          exact hhead rfl
        rw [List.cons_append, wholePart?]
        intro rest' heq
        exact hc (List.cons.inj heq).1
    rw [hleading, leadingDigits?_append hdigits hrest hne, Nat.zero_add]

end

theorem wholePart?_toDigits (n : Nat) {rest : List Char} (h : FollowsValue rest) :
    wholePart? (Nat.toDigits 10 n ++ rest) =
      some ⟨Nat.toDigits 10 n, (Nat.toDigits 10 n).length, rest⟩ := by
  refine wholePart?_append (fun _ => isDigit_of_mem_toDigits) (endsDigits_of_followsValue h) ?_
  rcases Nat.eq_zero_or_pos n with rfl | hpos
  · exact Or.inl rfl
  · exact Or.inr ⟨Nat.toDigits_ne_nil, head?_toDigits hpos⟩

theorem fractionPart?_of_followsValue {rest : List Char} (h : FollowsValue rest) :
    fractionPart? rest = none := by
  cases rest with
  | nil => rfl
  | cons c rest => rcases h c rfl with rfl | rfl <;> rfl

theorem exponentPart?_of_followsValue {rest : List Char} (h : FollowsValue rest) :
    exponentPart? rest = none := by
  cases rest with
  | nil => rfl
  | cons c rest => rcases h c rfl with rfl | rfl <;> rfl

theorem readMagnitude_toDigits {n : Nat} (hshort : (Nat.toDigits 10 n).length ≤ digitLimit)
    (negative : Bool) (signSize offset : Nat) {rest : List Char} (h : FollowsValue rest) :
    readMagnitude negative signSize offset (Nat.toDigits 10 n ++ rest) =
      .ok (.int (if negative then -(n : Int) else n),
        ⟨offset + signSize + (Nat.toDigits 10 n).length, rest⟩) := by
  have hvalue : digitsValue (Nat.toDigits 10 n) = n := Nat.ofDigitChars_ten_toDigits
  unfold readMagnitude
  rw [wholePart?_toDigits n h]
  dsimp only
  rw [fractionPart?_of_followsValue h]
  simp only [Option.getD_none]
  rw [exponentPart?_of_followsValue h]
  simp [wholeNumber, hshort, hvalue, Bind.bind, Except.bind, pure, Except.pure]

/-! ## Numbers and flags -/

theorem readValue_scalar {c : Char} {cs : List Char} (htext : c ≠ '"') (hlist : c ≠ '[')
    (hobject : c ≠ '\x7b') (fuel offset : Nat) :
    readValue (fuel + 1) ⟨offset, c :: cs⟩ = readScalar offset (c :: cs) := by
  rw [readValue]
  split
  · rename_i heq
    exact absurd (List.cons.inj heq).1 htext
  · rename_i heq
    exact absurd (List.cons.inj heq).1 hlist
  · rename_i heq
    exact absurd (List.cons.inj heq).1 hobject
  · rfl

/-- A value that is neither a text nor a list nor an object is read back if its characters are. -/
theorem readsBack_scalar {v : Json} {c : Char} {cs : List Char}
    (hchars : ∀ depth, v.indentedChars depth = c :: cs)
    (hstart : isSpace c = false ∧ c ≠ ']' ∧ c ≠ '"' ∧ c ≠ '[' ∧ c ≠ '\x7b')
    (hascii : ∀ d ∈ c :: cs, d.toNat < 128 ∧ d ≠ '\r')
    (hread : ∀ offset rest, FollowsValue rest →
      readScalar offset (c :: cs ++ rest) = .ok (v, ⟨offset + (c :: cs).length, rest⟩)) :
    ReadsBack v where
  starts depth := ⟨c, cs, hchars depth, hstart.1, hstart.2.1, (hascii c (by simp)).1⟩
  ascii depth d hd := hascii d (by rwa [hchars] at hd)
  reads depth fuel offset rest hfuel hrest := by
    rw [hchars] at hfuel ⊢
    cases fuel with
    | zero => simp at hfuel
    | succ fuel =>
      obtain ⟨-, -, htext, hlist, hobject⟩ := hstart
      rw [List.cons_append, readValue_scalar htext hlist hobject]
      exact hread offset rest hrest

/-- How a whole number begins: with a digit, or with a sign before one. -/
theorem intChars_cases (n : Int) :
    ∃ c cs, c.isDigit = true ∧ Nat.toDigits 10 n.natAbs = c :: cs ∧
      ((0 ≤ n ∧ intChars n = c :: cs) ∨ (n < 0 ∧ intChars n = '-' :: c :: cs)) := by
  cases hdigits : Nat.toDigits 10 n.natAbs with
  | nil => exact absurd hdigits Nat.toDigits_ne_nil
  | cons c cs =>
    have hc : c.isDigit = true := isDigit_of_mem_toDigits (by rw [hdigits]; simp)
    refine ⟨c, cs, hc, rfl, ?_⟩
    by_cases hn : n < 0
    · exact Or.inr ⟨hn, by rw [intChars, if_pos hn, hdigits]⟩
    · exact Or.inl ⟨by omega, by rw [intChars, if_neg hn, hdigits]⟩

theorem ne_of_isDigit {c d : Char} (hc : c.isDigit = true) (hd : d.isDigit = false) : c ≠ d := by
  rintro rfl
  rw [hc] at hd
  exact absurd hd (by decide)

theorem word?_digit {c : Char} (hc : c.isDigit = true) (cs : List Char) : word? (c :: cs) = none := by
  have hne : ∀ d : Char, d.isDigit = false → (d == c) = false := by
    intro d hd
    simpa using (ne_of_isDigit hc hd).symm
  simp [word?, words, List.isPrefixOf, hne]

theorem word?_minus_digit {c : Char} (hc : c.isDigit = true) (cs : List Char) :
    word? ('-' :: c :: cs) = none := by
  have hne : ('I' == c) = false := by simpa using (ne_of_isDigit (d := 'I') hc (by decide)).symm
  simp [word?, words, List.isPrefixOf, hne]

theorem readNumber_digit {c : Char} (hc : c.isDigit = true) (offset : Nat) (cs : List Char) :
    readNumber offset (c :: cs) = readMagnitude false 0 offset (c :: cs) := by
  unfold readNumber
  split
  · rename_i heq
    exact absurd (List.cons.inj heq).1 (ne_of_isDigit hc (by decide))
  · rfl

theorem readScalar_intChars {n : Int} (hshort : IsShort n) (offset : Nat) {rest : List Char}
    (h : FollowsValue rest) :
    readScalar offset (intChars n ++ rest) =
      .ok (.int n, ⟨offset + (intChars n).length, rest⟩) := by
  obtain ⟨c, cs, hc, hdigits, ⟨hn, hchars⟩ | ⟨hn, hchars⟩⟩ := intChars_cases n
  · have hread := readMagnitude_toDigits hshort false 0 offset h
    have hvalue : (n.natAbs : Int) = n := by omega
    rw [hdigits, hvalue] at hread
    rw [hchars, List.cons_append, readScalar, word?_digit hc]
    exact (readNumber_digit hc offset (cs ++ rest)).trans hread
  · have hread := readMagnitude_toDigits hshort true 1 offset h
    have hvalue : -(n.natAbs : Int) = n := by omega
    rw [hdigits, if_pos rfl, hvalue] at hread
    rw [hchars, List.cons_append, List.cons_append, readScalar, word?_minus_digit hc,
      List.length_cons, Nat.add_comm (c :: cs).length, ← Nat.add_assoc]
    exact hread

theorem toNat_of_mem_intChars {n : Int} {c : Char} (hc : c ∈ intChars n) :
    45 ≤ c.toNat ∧ c.toNat ≤ 57 := by
  have hdigit : c ∈ Nat.toDigits 10 n.natAbs → 45 ≤ c.toNat ∧ c.toNat ≤ 57 := fun h => by
    have := toNat_of_isDigit (isDigit_of_mem_toDigits h)
    omega
  unfold intChars at hc
  split at hc
  · rcases List.mem_cons.1 hc with rfl | hc
    · decide
    · exact hdigit hc
  · exact hdigit hc

theorem isSpace_of_range {c : Char} (h : 43 ≤ c.toNat ∧ c.toNat ≤ 57) :
    isSpace c = false ∧ c ≠ ']' ∧ c ≠ '"' ∧ c ≠ '[' ∧ c ≠ '\x7b' := by
  have hne : ∀ d : Char, ¬ (43 ≤ d.toNat ∧ d.toNat ≤ 57) → c ≠ d := by
    rintro d hd rfl
    exact hd h
  refine ⟨?_, hne _ (by decide), hne _ (by decide), hne _ (by decide), hne _ (by decide)⟩
  simp [isSpace, hne ' ' (by decide), hne '\t' (by decide), hne '\n' (by decide),
    hne '\r' (by decide)]

/-- **A whole number of no more digits than the reader takes is read back.** -/
theorem readsBack_int {n : Int} (hshort : IsShort n) : ReadsBack (.int n) := by
  obtain ⟨c, cs, hchars⟩ : ∃ c cs, intChars n = c :: cs := by
    obtain ⟨c, cs, -, -, ⟨-, hchars⟩ | ⟨-, hchars⟩⟩ := intChars_cases n
    · exact ⟨_, _, hchars⟩
    · exact ⟨_, _, hchars⟩
  have hrange : ∀ d ∈ c :: cs, 45 ≤ d.toNat ∧ d.toNat ≤ 57 := by
    intro d hd
    exact toNat_of_mem_intChars (n := n) (by rwa [hchars])
  have hstart := hrange c (by simp)
  refine readsBack_scalar (fun depth => by rw [indentedChars, hchars])
    (isSpace_of_range ⟨by omega, hstart.2⟩) (fun d hd => ?_) (fun offset rest hrest => ?_)
  · have hd' := hrange d hd
    refine ⟨by omega, ?_⟩
    rintro rfl
    exact absurd hd' (by decide)
  · rw [← hchars]
    exact readScalar_intChars hshort offset hrest

theorem ascii_words : ∀ word ∈ words, ∀ d ∈ word.1, d.toNat < 128 ∧ d ≠ '\r' := by simp [words]

/-- A word is read back. -/
theorem readsBack_word {v : Json} {w : List Char} (hword : (w, v) ∈ words)
    (hchars : ∀ depth, v.indentedChars depth = w) : ReadsBack v := by
  have hascii := ascii_words (w, v) hword
  simp only [words, List.mem_cons, Prod.mk.injEq, List.not_mem_nil, or_false] at hword
  rcases hword with ⟨rfl, rfl⟩ | ⟨rfl, rfl⟩ | ⟨rfl, rfl⟩ | ⟨rfl, rfl⟩ | ⟨rfl, rfl⟩ | ⟨rfl, rfl⟩ <;>
    exact readsBack_scalar hchars (by decide) hascii (fun _ _ _ => rfl)

theorem readsBack_null : ReadsBack .null :=
  readsBack_word (w := "null".toList) (by simp [words]) fun _ => rfl

theorem readsBack_bool (b : Bool) : ReadsBack (.bool b) := by
  cases b with
  | false => exact readsBack_word (w := "false".toList) (by simp [words]) fun _ => rfl
  | true => exact readsBack_word (w := "true".toList) (by simp [words]) fun _ => rfl

end Compendium.Json
