import Compendium.Text.Class

/-!
# Trimming

Trimming takes the blanks off both ends of a text and leaves what stands between (`trimChars_eq`,
`trimChars_split`). So blanks that are added at the end make no difference, and a part whose own
ends are not blank is there after trimming if it was there before (`infix_trimChars_iff`).
-/

namespace Compendium.Text

/-! ## Clear ends -/

/-- The text does not begin with a blank. -/
def FrontClear (cs : List Char) : Prop := ∀ c, cs.head? = some c → isBlank c = false

/-- The text neither begins nor ends with a blank. -/
structure Trimmed (cs : List Char) : Prop where
  front : FrontClear cs
  back : FrontClear cs.reverse

instance : (cs : List Char) → Decidable (FrontClear cs)
  | [] => isTrue (by simp [FrontClear])
  | c :: rest => decidable_of_iff (isBlank c = false) (by simp [FrontClear])

instance (cs : List Char) : Decidable (Trimmed cs) :=
  decidable_of_iff (FrontClear cs ∧ FrontClear cs.reverse)
    ⟨fun ⟨hfront, hback⟩ => ⟨hfront, hback⟩, fun h => ⟨h.front, h.back⟩⟩

theorem FrontClear.append {a b : List Char} (ha : FrontClear a) (hb : FrontClear b) :
    FrontClear (a ++ b) := by
  intro c hc
  rw [List.head?_append, Option.or_eq_some_iff] at hc
  rcases hc with hc | ⟨-, hc⟩
  · exact ha c hc
  · exact hb c hc

theorem FrontClear.append_right {a : List Char} (ha : FrontClear a) (hne : a ≠ []) (b : List Char) :
    FrontClear (a ++ b) := by
  intro c hc
  cases a with
  | nil => exact absurd rfl hne
  | cons d rest => exact ha c hc

/-! ## One end -/

/-- The text in front of which blanks were dropped. -/
theorem dropWhile_split (cs : List Char) :
    ∃ blanks, cs = blanks ++ cs.dropWhile isBlank ∧ (∀ c ∈ blanks, isBlank c = true) ∧
      FrontClear (cs.dropWhile isBlank) := by
  refine ⟨cs.takeWhile isBlank, List.takeWhile_append_dropWhile.symm, ?_, ?_⟩
  · exact List.all_eq_true.1 List.all_takeWhile
  · intro c hc
    have hhead := List.head?_dropWhile_not isBlank cs
    rw [hc] at hhead
    exact hhead

theorem dropWhile_blanks {blanks cs : List Char} (hblanks : ∀ c ∈ blanks, isBlank c = true)
    (hcs : FrontClear cs) : (blanks ++ cs).dropWhile isBlank = cs := by
  rw [List.dropWhile_append_of_pos hblanks]
  cases cs with
  | nil => rfl
  | cons c rest => simp [hcs c rfl]

/-! ## Both ends -/

/-- **A text without blanks at its ends is what trimming leaves of it between blanks.** -/
theorem trimChars_eq {before cs after : List Char} (hbefore : ∀ c ∈ before, isBlank c = true)
    (hafter : ∀ c ∈ after, isBlank c = true) (h : Trimmed cs) :
    trimChars (before ++ cs ++ after) = cs := by
  have hafter' : ∀ c ∈ after.reverse, isBlank c = true := by
    intro c hc
    exact hafter c (List.mem_reverse.1 hc)
  by_cases hcs : cs = []
  · subst hcs
    have hall : ∀ c ∈ before ++ after, isBlank c = true := by
      intro c hc
      exact (List.mem_append.1 hc).elim (hbefore c) (hafter c)
    have hdrop : (before ++ after ++ []).dropWhile isBlank = [] :=
      dropWhile_blanks hall (by simp [FrontClear])
    rw [List.append_nil] at hdrop
    rw [trimChars, List.append_nil, hdrop]
    rfl
  · rw [trimChars, List.append_assoc, dropWhile_blanks hbefore (h.front.append_right hcs after),
      List.reverse_append, dropWhile_blanks hafter' h.back, List.reverse_reverse]

/-- What trimming takes off. -/
theorem trimChars_split (cs : List Char) :
    ∃ before after, cs = before ++ trimChars cs ++ after ∧ (∀ c ∈ before, isBlank c = true) ∧
      (∀ c ∈ after, isBlank c = true) ∧ Trimmed (trimChars cs) := by
  obtain ⟨before, hcs, hbefore, hfront⟩ := dropWhile_split cs
  obtain ⟨after, hinner, hafter, hback⟩ := dropWhile_split (cs.dropWhile isBlank).reverse
  have hinner' : cs.dropWhile isBlank = trimChars cs ++ after.reverse := by
    rw [← List.reverse_inj, hinner, List.reverse_append, List.reverse_reverse, trimChars,
      List.reverse_reverse]
  refine ⟨before, after.reverse, ?_, hbefore, ?_, ?_, ?_⟩
  · rw [List.append_assoc, ← hinner', ← hcs]
  · intro c hc
    exact hafter c (List.mem_reverse.1 hc)
  · intro c hc
    apply hfront c
    rw [hinner', List.head?_append, hc, Option.some_or]
  · rwa [trimChars, List.reverse_reverse]

theorem infix_of_trimChars (cs : List Char) : trimChars cs <:+: cs := by
  obtain ⟨before, after, hcs, -⟩ := trimChars_split cs
  exact ⟨before, after, hcs.symm⟩

theorem trimmed_trimChars (cs : List Char) : Trimmed (trimChars cs) := by
  obtain ⟨-, -, -, -, -, h⟩ := trimChars_split cs
  exact h

theorem trimChars_of_trimmed {cs : List Char} (h : Trimmed cs) : trimChars cs = cs := by
  have heq : trimChars ([] ++ cs ++ []) = cs := trimChars_eq (by simp) (by simp) h
  rwa [List.nil_append, List.append_nil] at heq

/-- Blanks around a text make no difference to what trimming leaves of it. -/
theorem trimChars_between {before after : List Char} (hbefore : ∀ c ∈ before, isBlank c = true)
    (hafter : ∀ c ∈ after, isBlank c = true) (cs : List Char) :
    trimChars (before ++ cs ++ after) = trimChars cs := by
  obtain ⟨front, back, hcs, hfront, hback, htrimmed⟩ := trimChars_split cs
  have hblanks : ∀ c ∈ before ++ front, isBlank c = true := by
    intro c hc
    exact (List.mem_append.1 hc).elim (hbefore c) (hfront c)
  have hblanks' : ∀ c ∈ back ++ after, isBlank c = true := by
    intro c hc
    exact (List.mem_append.1 hc).elim (hback c) (hafter c)
  calc trimChars (before ++ cs ++ after)
      = trimChars (before ++ (front ++ trimChars cs ++ back) ++ after) := by rw [← hcs]
    _ = trimChars (before ++ front ++ trimChars cs ++ (back ++ after)) := by
        simp only [List.append_assoc]
    _ = trimChars cs := trimChars_eq hblanks hblanks' htrimmed

theorem trimChars_append_blanks (cs : List Char) {blanks : List Char}
    (h : ∀ c ∈ blanks, isBlank c = true) : trimChars (cs ++ blanks) = trimChars cs := by
  have hnone : ∀ c ∈ ([] : List Char), isBlank c = true := by simp
  exact trimChars_between hnone h cs

theorem trimChars_blanks_append {blanks : List Char} (h : ∀ c ∈ blanks, isBlank c = true)
    (cs : List Char) : trimChars (blanks ++ cs) = trimChars cs := by
  have hnone : ∀ c ∈ ([] : List Char), isBlank c = true := by simp
  have heq := trimChars_between h hnone cs
  rwa [List.append_nil] at heq

/-- A text of which trimming leaves nothing is blank throughout. -/
theorem blank_of_trimChars_eq_nil {cs : List Char} (h : trimChars cs = []) :
    ∀ c ∈ cs, isBlank c = true := by
  obtain ⟨before, after, hcs, hbefore, hafter, -⟩ := trimChars_split cs
  rw [h, List.append_nil] at hcs
  intro c hc
  rw [hcs, List.mem_append] at hc
  exact hc.elim (hbefore c) (hafter c)

/-- A part whose ends are not blank is not lost by trimming the text around it. -/
theorem infix_trimChars_iff {part cs : List Char} (hne : part ≠ []) (h : Trimmed part) :
    part <:+: trimChars cs ↔ part <:+: cs := by
  constructor
  · intro hpart
    exact hpart.trans (infix_of_trimChars cs)
  · rintro ⟨before, after, rfl⟩
    obtain ⟨blanks, hbefore, hblanks, hfront⟩ := dropWhile_split before
    obtain ⟨blanks', hafter, hblanks', hback⟩ := dropWhile_split after.reverse
    generalize before.dropWhile isBlank = left at hbefore hfront
    generalize after.reverse.dropWhile isBlank = right at hafter hback
    have hafter' : after = right.reverse ++ blanks'.reverse := by
      rw [← List.reverse_inj, hafter, List.reverse_append, List.reverse_reverse,
        List.reverse_reverse]
    have hblanks'' : ∀ c ∈ blanks'.reverse, isBlank c = true := by
      intro c hc
      exact hblanks' c (List.mem_reverse.1 hc)
    have hne' : part.reverse ≠ [] := by simpa using hne
    have htrimmed : Trimmed (left ++ (part ++ right.reverse)) := by
      constructor
      · exact hfront.append (h.front.append_right hne _)
      · rw [List.reverse_append, List.reverse_append, List.reverse_reverse, List.append_assoc]
        exact hback.append (h.back.append_right hne' _)
    have hwhole : before ++ part ++ after =
        blanks ++ (left ++ (part ++ right.reverse)) ++ blanks'.reverse := by
      rw [hbefore, hafter']
      simp only [List.append_assoc]
    refine ⟨left, right.reverse, ?_⟩
    rw [hwhole, trimChars_eq hblanks hblanks'' htrimmed, List.append_assoc]

end Compendium.Text
