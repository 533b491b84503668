import Compendium.Text.ClassTable

/-!
# Blanks, letters, digits and printable characters

The classes that trimming, template names and quoted texts go by.
-/

namespace Compendium.Text

/-- The characters that separate words. -/
def blankRanges : List (Nat × Nat) :=
  [(0x9, 0xD), (0x1C, 0x20), (0x85, 0x85), (0xA0, 0xA0), (0x1680, 0x1680), (0x2000, 0x200A),
   (0x2028, 0x2029), (0x202F, 0x202F), (0x205F, 0x205F), (0x3000, 0x3000)]

/-- The character separates words. -/
def isBlank (c : Char) : Bool := inRanges blankRanges c.toNat

/-- The character is white space; the separators of records are not. -/
def isWhite (c : Char) : Bool := isBlank c && !(0x1C ≤ c.toNat && c.toNat ≤ 0x1F)

def isLetter (c : Char) : Bool := inRanges letterRanges c.toNat

def isAlphanumeric (c : Char) : Bool := isLetter c || inRanges numeralRanges c.toNat

def decimalValue? (c : Char) : Option Nat :=
  (decimalZeros.find? fun base => base ≤ c.toNat && c.toNat < base + 10).map (c.toNat - ·)

/-- The character is a digit, if only one that makes up no decimal numbers. -/
def isDigit (c : Char) : Bool := (decimalValue? c).isSome || inRanges loneDigitRanges c.toNat

def decimalNumber? (cs : List Char) : Option Nat :=
  if cs.isEmpty then none
  else cs.foldl (fun n c => do return (← n) * 10 + (← decimalValue? c)) (some 0)

/-- The character is shown as itself in a quoted text. -/
def isPrintable (c : Char) : Bool := !inRanges hiddenRanges c.toNat

def trimChars (cs : List Char) : List Char :=
  ((cs.dropWhile isBlank).reverse.dropWhile isBlank).reverse

/-- Every character that core counts as white space separates words here too. -/
theorem isBlank_of_isWhitespace {c : Char} (h : c.isWhitespace = true) : isBlank c = true := by
  simp only [Char.isWhitespace, Bool.or_eq_true, decide_eq_true_eq] at h
  rcases h with ((h | h) | h) | h <;> subst h <;> decide

end Compendium.Text
