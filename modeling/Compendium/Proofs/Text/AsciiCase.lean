import Compendium.Proofs.Text.Lowering

/-!
# The case of ASCII letters

The two cases of an ASCII letter are alike to everything that trimming and lowering ask of a
character: whether it is a blank, whether it has a case, whether it is passed over in the search for
a neighbouring letter. So putting the ASCII letters of a text in lower case first makes no difference
to its lower case (`lowerChars_map_toLower`), capital sigmas included, and trimming may be done before
or after (`trimChars_map_toLower`).
-/

namespace Compendium.Text

/-! ## One character -/

theorem toLower_of_not_ascii {c : Char} (hc : ¬ c.toNat < 128) : c.toLower = c := by
  refine dif_neg ?_
  rintro ⟨-, hupper⟩
  have hcode := UInt32.le_iff_toNat_le.1 hupper
  exact hc (Nat.lt_of_le_of_lt hcode (by decide))

/-- What is the same for both cases of each ASCII letter does not tell a character from its lower
case in ASCII. -/
theorem apply_toLower {α : Type} {f : Char → α} (h : ∀ c : Char, c.toNat < 128 → f c.toLower = f c)
    (c : Char) : f c.toLower = f c := by
  by_cases hc : c.toNat < 128
  · exact h c hc
  · rw [toLower_of_not_ascii hc]

theorem isBlank_toLower (c : Char) : isBlank c.toLower = isBlank c :=
  apply_toLower (forall_ascii (by decide)) c

theorem isCased_toLower (c : Char) : isCased c.toLower = isCased c :=
  apply_toLower (forall_ascii (by decide)) c

theorem isCaseIgnorable_toLower (c : Char) : isCaseIgnorable c.toLower = isCaseIgnorable c :=
  apply_toLower (forall_ascii (by decide)) c

theorem lowerChar_toLower (c : Char) : lowerChar c.toLower = lowerChar c :=
  apply_toLower (forall_ascii (by decide)) c

/-- Only a letter is the lower case in ASCII of another character. -/
theorem toLower_eq_iff {d : Char} (hd : d.isAlpha = false) (c : Char) : c.toLower = d ↔ c = d := by
  by_cases hc : c.toNat < 128
  · have hall : ∀ c : Char, c.toNat < 128 →
        c.toLower = c ∨ c.isAlpha = true ∧ c.toLower.isAlpha = true := forall_ascii (by decide)
    rcases hall c hc with heq | ⟨hletter, hletter'⟩
    · rw [heq]
    · constructor
      · rintro rfl
        simp [hletter'] at hd
      · rintro rfl
        simp [hletter] at hd
  · rw [toLower_of_not_ascii hc]

/-! ## Texts -/

theorem dropWhile_map_toLower {p : Char → Bool} (h : ∀ c : Char, p c.toLower = p c) (cs : List Char) :
    (cs.map Char.toLower).dropWhile p = (cs.dropWhile p).map Char.toLower := by
  have hp : p ∘ Char.toLower = p := funext h
  rw [List.dropWhile_map, hp]

theorem trimChars_map_toLower (cs : List Char) :
    trimChars (cs.map Char.toLower) = (trimChars cs).map Char.toLower := by
  rw [trimChars, dropWhile_map_toLower isBlank_toLower, ← List.map_reverse,
    dropWhile_map_toLower isBlank_toLower, ← List.map_reverse, trimChars]

theorem meetsCased_map_toLower (cs : List Char) : meetsCased (cs.map Char.toLower) = meetsCased cs := by
  rw [meetsCased, dropWhile_map_toLower isCaseIgnorable_toLower, List.head?_map, Option.any_map]
  simp only [isCased_toLower, meetsCased]

theorem endsWord_map_toLower (before after : List Char) :
    endsWord (before.map Char.toLower) (after.map Char.toLower) = endsWord before after := by
  rw [endsWord, meetsCased_map_toLower, meetsCased_map_toLower, endsWord]

theorem lowerAfter_map_toLower (before cs : List Char) :
    lowerAfter (before.map Char.toLower) (cs.map Char.toLower) = lowerAfter before cs := by
  induction cs generalizing before with
  | nil => rfl
  | cons c rest ih =>
    have hrest := ih (c :: before)
    rw [List.map_cons] at hrest
    rw [List.map_cons, lowerAfter, lowerAfter, hrest, endsWord_map_toLower, lowerChar_toLower]
    simp only [toLower_eq_iff (d := 'Σ') (by decide)]

/-- **The case of its ASCII letters makes no difference to the lower case of a text.** -/
theorem lowerChars_map_toLower (cs : List Char) : lowerChars (cs.map Char.toLower) = lowerChars cs :=
  lowerAfter_map_toLower [] cs

end Compendium.Text
