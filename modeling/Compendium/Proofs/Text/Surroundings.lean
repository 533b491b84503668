import Compendium.Proofs.Text.Lowering
import Compendium.Text.Contains
import Mathlib.Data.List.Infix
import Mathlib.Data.List.TakeWhile

/-!
# Lower case inside a longer text

The lower case of a part of a text differs from the lower case of the part by itself in nothing but
its capital sigmas, and in those just where one ends a word in the one and not in the other
(`lowerBetween_eq_iff`). So a text is not always found in a longer one that it is a part of. Main
theorem `containsFolded_part`: it is found wherever its capital sigmas end a word as they do in the
text by itself, and it is found inside every longer text just when no capital sigma of it depends on
what stands around it.
-/

namespace Compendium.Text

/-! ## Between other texts -/

/-- Each capital sigma of the text ends a word between the first two texts just when it does between
the other two. -/
def SigmasAlike (cs before after before' after' : List Char) : Prop :=
  ∀ front back, cs = front ++ 'Σ' :: back →
    endsWord (front.reverse ++ before) (back ++ after) =
      endsWord (front.reverse ++ before') (back ++ after')

theorem sigmasAlike_cons {c : Char} {rest before after before' after' : List Char} :
    SigmasAlike (c :: rest) before after before' after' ↔
      (c = 'Σ' → endsWord before (rest ++ after) = endsWord before' (rest ++ after')) ∧
        SigmasAlike rest (c :: before) after (c :: before') after' := by
  constructor
  · intro h
    refine ⟨?_, ?_⟩
    · rintro rfl
      exact h [] rest rfl
    · rintro front back rfl
      simpa using h (c :: front) back rfl
  · rintro ⟨hfirst, hrest⟩ front back heq
    cases front with
    | nil =>
      obtain ⟨rfl, rfl⟩ := List.cons.inj heq
      exact hfirst rfl
    | cons d front =>
      obtain ⟨rfl, hback⟩ := List.cons.inj heq
      simpa using hrest front back hback

/-- What stands around a text counts for its capital sigmas alone. -/
theorem lowerBetween_eq_iff {cs before after before' after' : List Char} :
    lowerBetween before cs after = lowerBetween before' cs after' ↔
      SigmasAlike cs before after before' after' := by
  induction cs generalizing before before' with
  | nil => simp [lowerBetween, SigmasAlike]
  | cons c rest ih =>
    rw [sigmasAlike_cons, ← ih, lowerBetween, lowerBetween]
    by_cases hc : c = 'Σ'
    · subst hc
      rw [if_pos rfl, if_pos rfl, List.singleton_append, List.singleton_append, List.cons.injEq]
      refine and_congr_left fun _ => ?_
      cases endsWord before (rest ++ after) <;> cases endsWord before' (rest ++ after') <;> simp
    · simp [hc]

theorem length_lowerBetween (cs before after before' after' : List Char) :
    (lowerBetween before cs after).length = (lowerBetween before' cs after').length := by
  induction cs generalizing before before' with
  | nil => rfl
  | cons c rest ih =>
    rw [lowerBetween, lowerBetween, List.length_append, List.length_append,
      ih (c :: before) (c :: before')]
    by_cases hc : c = 'Σ' <;> simp [hc]

theorem lowerBetween_nil (before cs : List Char) :
    lowerBetween before cs [] = lowerAfter before cs := by
  have h := lowerAfter_append before cs []
  rwa [List.append_nil, lowerAfter, List.append_nil, eq_comm] at h

/-! ## The nearest letter -/

theorem meetsCased_append_of_mem {cs : List Char} (h : ∃ c ∈ cs, isCaseIgnorable c = false)
    (more : List Char) : meetsCased (cs ++ more) = meetsCased cs := by
  have hne : cs.dropWhile isCaseIgnorable ≠ [] := by
    rw [Ne, List.dropWhile_eq_nil_iff]
    intro hall
    obtain ⟨c, hc, hcase⟩ := h
    rw [hall c hc] at hcase
    exact absurd hcase (by simp)
  obtain ⟨c, rest, hcs⟩ := List.exists_cons_of_ne_nil hne
  simp [meetsCased, List.dropWhile_append, hcs]

theorem meetsCased_append_of_forall {cs : List Char} (h : ∀ c ∈ cs, isCaseIgnorable c = true)
    (more : List Char) : meetsCased (cs ++ more) = meetsCased more := by
  rw [meetsCased, List.dropWhile_append_of_pos h, meetsCased]

theorem meetsCased_of_forall {cs : List Char} (h : ∀ c ∈ cs, isCaseIgnorable c = true) :
    meetsCased cs = false := by
  have hnil := meetsCased_append_of_forall h []
  rwa [List.append_nil] at hnil

theorem exists_mem_of_meetsCased {cs : List Char} (h : meetsCased cs = true) :
    ∃ c ∈ cs, isCaseIgnorable c = false := by
  by_contra hall
  have hcs : ∀ c ∈ cs, isCaseIgnorable c = true := by
    intro c hc
    by_contra hcase
    exact hall ⟨c, hc, by simpa using hcase⟩
  rw [meetsCased_of_forall hcs] at h
  exact absurd h (by simp)

/-! ## Settled sigmas -/

/-- Whether a capital sigma between two texts ends a word does not depend on what stands around
them: a letter follows it in the second, or the first says whether one stands before it and, if so,
the second says that none follows. -/
def Settled (front back : List Char) : Prop :=
  meetsCased back = true ∨
    (∃ c ∈ front, isCaseIgnorable c = false) ∧
      (meetsCased front.reverse = true → ∃ c ∈ back, isCaseIgnorable c = false)

/-- Every capital sigma of the text is settled. -/
def SigmasSettled (cs : List Char) : Prop :=
  ∀ front back, cs = front ++ 'Σ' :: back → Settled front back

theorem endsWord_of_settled {front back : List Char} (h : Settled front back)
    (before after : List Char) :
    endsWord (front.reverse ++ before) (back ++ after) = endsWord front.reverse back := by
  simp only [endsWord]
  rcases h with hback | ⟨hfront, hback⟩
  · rw [meetsCased_append_of_mem (exists_mem_of_meetsCased hback), hback]
    simp
  · have hfront' : ∃ c ∈ front.reverse, isCaseIgnorable c = false := by simpa using hfront
    rw [meetsCased_append_of_mem hfront']
    cases hcased : meetsCased front.reverse with
    | false => rfl
    | true => rw [meetsCased_append_of_mem (hback hcased)]

theorem sigmasAlike_of_settled {cs : List Char} (h : SigmasSettled cs) (before after : List Char) :
    SigmasAlike cs before after [] [] := by
  intro front back heq
  rw [endsWord_of_settled (h front back heq), List.append_nil, List.append_nil]

/-! ## Parts of a text -/

theorem lowerChars_append_append (a cs b : List Char) :
    ∃ front, lowerChars (a ++ cs ++ b) =
      front ++ lowerBetween a.reverse cs b ++ lowerAfter (cs.reverse ++ a.reverse) b := by
  refine ⟨lowerBetween [] a (cs ++ b), ?_⟩
  rw [lowerChars, List.append_assoc, lowerAfter_append, lowerAfter_append, List.append_nil,
    List.append_assoc]

theorem infix_of_sigmasAlike {a cs b : List Char} (h : SigmasAlike cs a.reverse b [] []) :
    lowerChars cs <:+: lowerChars (a ++ cs ++ b) := by
  obtain ⟨front, hwhole⟩ := lowerChars_append_append a cs b
  rw [lowerBetween_eq_iff.2 h, lowerBetween_nil] at hwhole
  exact ⟨front, _, hwhole.symm⟩

/-! ## Sigmas that are not settled -/

/-- Only the letter itself becomes an `a`. -/
theorem eq_of_a_mem_image {c : Char} {image : List Char} (h : Lowers c image) (ha : 'a' ∈ image) :
    c = 'a' ∨ c = 'A' := by
  have hascii : ∀ d : Char, d.toNat < 128 → d.toLower = 'a' → d = 'a' ∨ d = 'A' :=
    forall_ascii (by decide)
  rcases h.ascii ha (by decide) with ⟨hc, heq⟩ | ⟨-, heq⟩ | ⟨-, heq⟩
  · exact hascii c hc heq.symm
  · exact absurd heq (by decide)
  · exact absurd heq (by decide)

theorem meetsCased_letter : meetsCased ['A'] = true := by decide

theorem not_a_of_isCaseIgnorable {c : Char} (h : isCaseIgnorable c = true) :
    ¬ (c = 'a' ∨ c = 'A') := by
  rintro (rfl | rfl)
  · exact absurd h (by decide)
  · exact absurd h (by decide)

theorem eq_of_lowerChars_cons {c : Char} {rest tail : List Char}
    (h : lowerChars (c :: rest) = 'a' :: tail) : c = 'a' ∨ c = 'A' := by
  obtain ⟨image, himage, heq⟩ := lowerAfter_cons [] c rest
  rw [lowerChars, heq] at h
  cases image with
  | nil => exact absurd rfl himage.ne_nil
  | cons d more =>
    obtain ⟨rfl, -⟩ := List.cons.inj h
    exact eq_of_a_mem_image himage (by simp)

theorem eq_of_lowerChars_concat {c : Char} {front init : List Char}
    (h : lowerChars (init ++ [c]) = front ++ ['a']) : c = 'a' ∨ c = 'A' := by
  obtain ⟨image, himage, heq⟩ := lowerAfter_cons (init.reverse ++ []) c []
  rw [lowerChars, lowerAfter_append, heq, lowerAfter, List.append_nil] at h
  rcases List.eq_nil_or_concat image with rfl | ⟨more, d, rfl⟩
  · exact absurd rfl himage.ne_nil
  · rw [List.concat_eq_append, ← List.append_assoc] at h
    obtain ⟨-, hd⟩ := List.append_inj' h rfl
    obtain rfl : d = 'a' := List.singleton_inj.1 hd
    exact eq_of_a_mem_image himage (by simp)

/-- A letter in front makes a sigma end a word that did not. -/
theorem not_infix_after_letter {front back : List Char}
    (hfront : ∀ c ∈ front, isCaseIgnorable c = true) (hback : meetsCased back = false) :
    ¬ lowerChars (front ++ 'Σ' :: back) <:+: lowerChars ('A' :: (front ++ 'Σ' :: back)) := by
  have hwhole : lowerChars ('A' :: (front ++ 'Σ' :: back)) =
      'a' :: lowerBetween ['A'] (front ++ 'Σ' :: back) [] := by
    rw [lowerBetween_nil]
    rfl
  rw [hwhole, List.infix_cons_iff]
  rintro (hstart | hinside)
  · -- it would begin with the letter
    rcases List.prefix_cons_iff.1 hstart with hnil | ⟨tail, hcons, -⟩
    · rw [lowerChars_eq_nil_iff] at hnil
      exact absurd hnil (by simp)
    · cases front with
      | nil => exact absurd (eq_of_lowerChars_cons hcons) (by decide)
      | cons c front =>
        exact not_a_of_isCaseIgnorable (hfront c (by simp)) (eq_of_lowerChars_cons hcons)
  · rw [lowerChars, ← lowerBetween_nil] at hinside
    have heq := hinside.eq_of_length (length_lowerBetween _ _ _ _ _)
    have halike := lowerBetween_eq_iff.1 heq front back rfl
    have hfront' : ∀ c ∈ front.reverse, isCaseIgnorable c = true := by simpa using hfront
    rw [List.append_nil, List.append_nil, endsWord, endsWord,
      meetsCased_append_of_forall hfront', meetsCased_of_forall hfront', hback, meetsCased_letter]
      at halike
    exact absurd halike (by simp)

/-- A letter behind makes a sigma end no word that did. -/
theorem not_infix_before_letter {front back : List Char}
    (hfront : meetsCased front.reverse = true) (hback : ∀ c ∈ back, isCaseIgnorable c = true) :
    ¬ lowerChars (front ++ 'Σ' :: back) <:+: lowerChars (front ++ 'Σ' :: back ++ ['A']) := by
  have hwhole : lowerChars (front ++ 'Σ' :: back ++ ['A']) =
      lowerBetween [] (front ++ 'Σ' :: back) ['A'] ++ ['a'] := by
    rw [lowerChars, lowerAfter_append]
    rfl
  rw [hwhole, List.infix_concat_iff]
  rintro (hend | hinside)
  · -- it would end with the letter
    rcases List.suffix_concat_iff.1 hend with hnil | ⟨init, hconcat, -⟩
    · rw [lowerChars_eq_nil_iff] at hnil
      exact absurd hnil (by simp)
    · rcases List.eq_nil_or_concat back with rfl | ⟨back, c, rfl⟩
      · exact absurd (eq_of_lowerChars_concat hconcat) (by decide)
      · rw [List.concat_eq_append, ← List.cons_append, ← List.append_assoc] at hconcat
        exact not_a_of_isCaseIgnorable (hback c (by simp)) (eq_of_lowerChars_concat hconcat)
  · rw [lowerChars, ← lowerBetween_nil] at hinside
    have heq := hinside.eq_of_length (length_lowerBetween _ _ _ _ _)
    have halike := lowerBetween_eq_iff.1 heq front back rfl
    rw [List.append_nil, List.append_nil, endsWord, endsWord, meetsCased_append_of_forall hback,
      meetsCased_of_forall hback, hfront, meetsCased_letter] at halike
    exact absurd halike (by simp)

theorem exists_not_infix_of_not_settled {front back : List Char} (h : ¬ Settled front back) :
    ∃ a b, ¬ lowerChars (front ++ 'Σ' :: back) <:+: lowerChars (a ++ (front ++ 'Σ' :: back) ++ b) := by
  rw [Settled, not_or, Bool.not_eq_true] at h
  obtain ⟨hback, hrest⟩ := h
  by_cases hfront : ∃ c ∈ front, isCaseIgnorable c = false
  · have hback' : meetsCased front.reverse = true ∧ ¬ ∃ c ∈ back, isCaseIgnorable c = false := by
      rw [← Classical.not_imp]
      exact fun himp => hrest ⟨hfront, himp⟩
    have hall : ∀ c ∈ back, isCaseIgnorable c = true := by
      simpa only [not_exists, not_and, Bool.not_eq_false] using hback'.2
    exact ⟨[], ['A'], not_infix_before_letter hback'.1 hall⟩
  · have hall : ∀ c ∈ front, isCaseIgnorable c = true := by
      simpa only [not_exists, not_and, Bool.not_eq_false] using hfront
    refine ⟨['A'], [], ?_⟩
    rw [List.append_nil]
    exact not_infix_after_letter hall hback

/-! ## A part is found -/

instance (cs before after before' after' : List Char) :
    Decidable (SigmasAlike cs before after before' after') :=
  decidable_of_iff _ lowerBetween_eq_iff

theorem containsFolded_append_iff (a n b : String) :
    containsFolded (a ++ n ++ b) n = true ↔
      lowerChars n.toList <:+: lowerChars (a.toList ++ n.toList ++ b.toList) := by
  rw [containsFolded, occursIn_iff, String.toList_append, String.toList_append]
  exact exists₂_congr fun _ _ => eq_comm

/-- **When a text is found where it is a part**: wherever its capital sigmas end a word as they do
in the text by itself. It is found in all surroundings just when none of them depends on these. -/
theorem containsFolded_part (n : String) :
    (∀ a b : String, SigmasAlike n.toList a.toList.reverse b.toList [] [] →
      containsFolded (a ++ n ++ b) n = true) ∧
    ((∀ a b : String, containsFolded (a ++ n ++ b) n = true) ↔ SigmasSettled n.toList) := by
  have hfound : ∀ a b : String, SigmasAlike n.toList a.toList.reverse b.toList [] [] →
      containsFolded (a ++ n ++ b) n = true := by
    intro a b halike
    exact (containsFolded_append_iff a n b).2 (infix_of_sigmasAlike halike)
  refine ⟨hfound, ?_, ?_⟩
  · intro hall front back hn
    by_contra hsettled
    obtain ⟨a, b, hnot⟩ := exists_not_infix_of_not_settled hsettled
    have hinside := (containsFolded_append_iff (String.ofList a) n (String.ofList b)).1 (hall _ _)
    rw [hn, String.toList_ofList, String.toList_ofList] at hinside
    exact hnot hinside
  · intro hsettled a b
    exact hfound a b (sigmasAlike_of_settled hsettled _ _)

/-- The last sigma ends the word, in the name and in the sentence. -/
theorem containsFolded_part_odysseus :
    SigmasAlike "ΟΔΥΣΣΕΥΣ".toList "Ο ".toList.reverse ", ΤΙΣ".toList [] [] ∧
      containsFolded ("Ο " ++ "ΟΔΥΣΣΕΥΣ" ++ ", ΤΙΣ") "ΟΔΥΣΣΕΥΣ" = true := by
  have halike : SigmasAlike "ΟΔΥΣΣΕΥΣ".toList "Ο ".toList.reverse ", ΤΙΣ".toList [] [] := by
    decide
  exact ⟨halike, (containsFolded_part "ΟΔΥΣΣΕΥΣ").1 "Ο " ", ΤΙΣ" halike⟩

/-- A sigma that ends a word by itself and stands inside one in the longer text. -/
theorem sigma_lost_in_word :
    containsFolded ("" ++ "ΑΣ" ++ "Α") "ΑΣ" = false ∧ ¬ SigmasSettled "ΑΣ".toList := by
  refine ⟨by decide, fun h => ?_⟩
  rcases h ['Α'] [] (by decide) with hback | ⟨-, hfollows⟩
  · exact absurd hback (by decide)
  · obtain ⟨c, hc, -⟩ := hfollows (by decide)
    exact absurd hc (by simp)

end Compendium.Text
