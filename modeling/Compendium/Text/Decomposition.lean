import Compendium.Text.DecompositionTable

/-!
# Compatibility decomposition

A character decomposes into base characters and combining marks. A sort key keeps the base
characters alone, so the order that several marks on one character would be put in never shows,
and is not computed.
-/

namespace Compendium.Text

/-- The letters that a syllable of Hangul is made of: leading consonant, vowel, and, unless it is
open, trailing consonant. -/
def hangulLetters (n : Nat) : List Char :=
  let index := n - 0xAC00
  let leading := Char.ofNat (0x1100 + index / 588)
  let vowel := Char.ofNat (0x1161 + index % 588 / 28)
  if index % 28 = 0 then [leading, vowel]
  else [leading, vowel, Char.ofNat (0x11A7 + index % 28)]

/-- What a character decomposes into, itself if it is elementary. -/
def decomposeChar (c : Char) : List Char :=
  let n := c.toNat
  if n < 0xA0 then [c]
  else if 0xAC00 ≤ n ∧ n ≤ 0xD7A3 then hangulLetters n
  else
    match runImage? decompositionRuns n with
    | some image => [Char.ofNat image]
    | none =>
      match blockImage? decompositionBlocks n with
      | some codes => ofCodes codes
      | none => [c]

/-- The character combines with the one before it. -/
def isMark (c : Char) : Bool := inRanges markRanges c.toNat

/-- The base characters of a text: decomposed, without marks. -/
def baseChars (cs : List Char) : List Char := (cs.flatMap decomposeChar).filter (!isMark ·)

theorem baseChars_append (a b : List Char) : baseChars (a ++ b) = baseChars a ++ baseChars b := by
  simp [baseChars]

end Compendium.Text
