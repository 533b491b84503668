import Compendium.Proofs.Text.Surroundings
import Mathlib.Data.List.Basic

/-!
# Words between blanks

A blank is passed over by no search for a neighbouring letter and has no case, so what stands before
it and what stands after it are lowered each by itself (`lowerChars_blank`). The words of a text are
what its blanks part, so neither a blank that joins two texts nor trimming makes a difference to them
(`words_lowerChars_blank`, `words_lowerChars_trimChars`).
-/

namespace Compendium.Text

/-! ## Blanks -/

theorem forall_blank {P : Char → Bool}
    (h : (blankRanges.all fun r =>
      (List.range' r.1 (r.2 + 1 - r.1)).all fun n => P (Char.ofNat n)) = true) :
    ∀ c, isBlank c = true → P c = true := by
  intro c hc
  obtain ⟨r, hr, hlow, hhigh⟩ := exists_of_inRanges hc
  have hall := List.all_eq_true.1 (List.all_eq_true.1 h r hr)
  have hmem : c.toNat ∈ List.range' r.1 (r.2 + 1 - r.1) := by
    rw [List.mem_range'_1]
    omega
  have hP := hall c.toNat hmem
  rwa [Char.ofNat_toNat] at hP

/-- The character parts words: it has no other lower case, and a search for a neighbouring letter
ends at it without one. -/
structure PartsWords (c : Char) : Prop where
  lowerChar_eq : lowerChar c = [c]
  not_ignorable : isCaseIgnorable c = false
  not_cased : isCased c = false
  ne_sigma : c ≠ 'Σ'

theorem partsWords_of_isBlank {c : Char} (h : isBlank c = true) : PartsWords c := by
  have hall : ∀ c, isBlank c = true →
      (lowerChar c == [c] && !isCaseIgnorable c && !isCased c) = true :=
    forall_blank (by decide +kernel)
  have hc := hall c h
  simp only [Bool.and_eq_true, beq_iff_eq, Bool.not_eq_true'] at hc
  refine ⟨hc.1.1, hc.1.2, hc.2, ?_⟩
  rintro rfl
  exact absurd h (by decide)

theorem meetsCased_append_blank {c : Char} (h : isBlank c = true) (cs rest : List Char) :
    meetsCased (cs ++ c :: rest) = meetsCased cs := by
  obtain ⟨-, hignorable, hcased, -⟩ := partsWords_of_isBlank h
  by_cases hmem : ∃ d ∈ cs, isCaseIgnorable d = false
  · exact meetsCased_append_of_mem hmem _
  · have hall : ∀ d ∈ cs, isCaseIgnorable d = true := by
      simpa only [not_exists, not_and, Bool.not_eq_false] using hmem
    rw [meetsCased_append_of_forall hall, meetsCased_of_forall hall, meetsCased,
      List.dropWhile_cons_of_neg (by simp [hignorable])]
    exact hcased

theorem lowerAfter_blank {c : Char} (h : isBlank c = true) (before rest : List Char) :
    lowerAfter before (c :: rest) = c :: lowerChars rest := by
  obtain ⟨hlower, -, -, hsigma⟩ := partsWords_of_isBlank h
  have halike : SigmasAlike rest (c :: before) [] [] [] := by
    intro front back _
    rw [endsWord, meetsCased_append_blank h, endsWord, List.append_nil, List.append_nil]
  have hrest := lowerBetween_eq_iff.2 halike
  rw [lowerBetween_nil, lowerBetween_nil] at hrest
  rw [lowerAfter, if_neg hsigma, hlower, hrest]
  rfl

/-- What stands before a blank and what stands after it are lowered each by itself. -/
theorem lowerChars_blank {c : Char} (h : isBlank c = true) (a b : List Char) :
    lowerChars (a ++ c :: b) = lowerChars a ++ c :: lowerChars b := by
  have halike : SigmasAlike a [] (c :: b) [] [] := by
    intro front back _
    rw [endsWord, meetsCased_append_blank h, endsWord, List.append_nil, List.append_nil]
  rw [lowerChars, lowerAfter_append, lowerBetween_eq_iff.2 halike, lowerBetween_nil,
    lowerAfter_blank h]
  rfl

/-! ## Words -/

/-- The words of a text: the longest runs without a blank. -/
def words (cs : List Char) : List (List Char) :=
  (cs.splitOnP isBlank).filter fun w => !w.isEmpty

theorem words_lowerChars_nil : words (lowerChars []) = [] := by
  simp [lowerChars, lowerAfter, words]

theorem words_append_blank {c : Char} (h : isBlank c = true) (a b : List Char) :
    words (a ++ c :: b) = words a ++ words b := by
  rw [words, List.splitOnP_append_cons _ _ h, List.filter_append, words, words]

example : words " dire\t wolf".toList = ["dire".toList, "wolf".toList] := by decide

theorem words_lowerChars_blank {c : Char} (h : isBlank c = true) (a b : List Char) :
    words (lowerChars (a ++ c :: b)) = words (lowerChars a) ++ words (lowerChars b) := by
  rw [lowerChars_blank h, words_append_blank h]

theorem words_lowerChars_blanks_append {blanks : List Char}
    (h : ∀ c ∈ blanks, isBlank c = true) (cs : List Char) :
    words (lowerChars (blanks ++ cs)) = words (lowerChars cs) := by
  induction blanks with
  | nil => rfl
  | cons c rest ih =>
    have hjoined := words_lowerChars_blank (h c (by simp)) [] (rest ++ cs)
    rw [List.nil_append, words_lowerChars_nil, List.nil_append] at hjoined
    rw [List.cons_append, hjoined, ih fun d hd => h d (by simp [hd])]

theorem words_lowerChars_append_blanks (cs : List Char) {blanks : List Char}
    (h : ∀ c ∈ blanks, isBlank c = true) :
    words (lowerChars (cs ++ blanks)) = words (lowerChars cs) := by
  cases blanks with
  | nil => rw [List.append_nil]
  | cons c rest =>
    have hrest := words_lowerChars_blanks_append (fun d hd => h d (List.mem_cons_of_mem c hd)) []
    rw [List.append_nil, words_lowerChars_nil] at hrest
    rw [words_lowerChars_blank (h c (by simp)), hrest, List.append_nil]

/-- Trimming takes no word away. -/
theorem words_lowerChars_trimChars (cs : List Char) :
    words (lowerChars (trimChars cs)) = words (lowerChars cs) := by
  obtain ⟨before, after, hcs, hbefore, hafter, -⟩ := trimChars_split cs
  calc words (lowerChars (trimChars cs))
      = words (lowerChars (before ++ trimChars cs)) :=
        (words_lowerChars_blanks_append hbefore _).symm
    _ = words (lowerChars (before ++ trimChars cs ++ after)) :=
        (words_lowerChars_append_blanks _ hafter).symm
    _ = words (lowerChars cs) := by rw [← hcs]

end Compendium.Text
