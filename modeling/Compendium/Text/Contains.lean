import Compendium.Text.Case

/-!
# Texts inside texts

Whether one text occurs in another, as it is or with upper and lower case alike. Main statement: a
text occurs in every text that it is a part of (`occursIn_iff`).
-/

namespace Compendium.Text

/-- The second text occurs in the first. -/
def occursIn (needle : List Char) : List Char → Bool
  | [] => needle.isEmpty
  | c :: rest => needle.isPrefixOf (c :: rest) || occursIn needle rest

/-- The second text occurs in the first, upper and lower case alike. -/
def containsFolded (text needle : String) : Bool :=
  occursIn (lowerChars needle.toList) (lowerChars text.toList)

/-- The text is there, and the other occurs in it, upper and lower case alike. -/
def containsFolded? (text : Option String) (needle : String) : Bool :=
  text.any fun t => containsFolded t needle

theorem occursIn_iff {needle cs : List Char} :
    occursIn needle cs = true ↔ ∃ before after, cs = before ++ needle ++ after := by
  induction cs with
  | nil =>
    simp only [occursIn, List.isEmpty_iff]
    exact ⟨fun h => ⟨[], [], by simp [h]⟩, fun ⟨_, _, h⟩ => by simp_all⟩
  | cons c rest ih =>
    simp only [occursIn, Bool.or_eq_true, ih, List.isPrefixOf_iff_prefix]
    constructor
    · rintro (⟨after, h⟩ | ⟨before, after, h⟩)
      · exact ⟨[], after, by simpa using h.symm⟩
      · exact ⟨c :: before, after, by simp [h]⟩
    · rintro ⟨before, after, h⟩
      cases before with
      | nil => exact Or.inl ⟨after, by simpa using h.symm⟩
      | cons d before =>
        simp only [List.cons_append, List.cons.injEq] at h
        exact Or.inr ⟨before, after, h.2⟩

end Compendium.Text
