import Compendium.Text.CaseTable

/-!
# Lower case, upper case and case folding

The full mappings of Unicode: a character may become several. Lowering looks at the neighbours of
one character only, the capital sigma, which ends a word as `ς` and is `σ` elsewhere. Upper case
and folding act on each character by itself (`upper_append`, `fold_append`).
-/

namespace Compendium.Text

/-- The image of a character under a mapping given by runs and expansions, itself if there is none. -/
def imageOf (runs : List Run) (expansions : List (Nat × List Nat)) (c : Char) : List Char :=
  match runImage? runs c.toNat with
  | some n => [Char.ofNat n]
  | none =>
    match expansions.lookup c.toNat with
    | some codes => ofCodes codes
    | none => [c]

def lowerChar (c : Char) : List Char :=
  if c.toNat < 128 then [c.toLower] else imageOf lowerRuns lowerExpansions c

def upperChar (c : Char) : List Char :=
  if c.toNat < 128 then [c.toUpper] else imageOf upperRuns upperExpansions c

/-- The folded form of a character, equal for characters that differ in case alone. -/
def foldChar (c : Char) : List Char :=
  if c.toNat < 128 then [c.toLower] else imageOf foldRuns foldExpansions c

def isCased (c : Char) : Bool := inRanges casedRanges c.toNat

/-- The character is passed over in the search for a neighbouring letter. -/
def isCaseIgnorable (c : Char) : Bool := inRanges caseIgnorableRanges c.toNat

/-- The nearest character that is not passed over has a case. -/
def meetsCased (cs : List Char) : Bool := (cs.dropWhile isCaseIgnorable).head?.any isCased

/-- A capital sigma ends its word: a letter stands before it (`before` runs backwards) and none
after it. -/
def endsWord (before after : List Char) : Bool := meetsCased before && !meetsCased after

/-- Lower case of the second list, which follows the reverse of the first. -/
def lowerAfter : List Char → List Char → List Char
  | _, [] => []
  | before, c :: rest =>
    (if c = 'Σ' then [if endsWord before rest then 'ς' else 'σ'] else lowerChar c) ++
      lowerAfter (c :: before) rest

def lowerChars (cs : List Char) : List Char := lowerAfter [] cs

def upperChars (cs : List Char) : List Char := cs.flatMap upperChar

def foldChars (cs : List Char) : List Char := cs.flatMap foldChar

def lower (s : String) : String := String.ofList (lowerChars s.toList)

def upper (s : String) : String := String.ofList (upperChars s.toList)

theorem upper_append (a b : List Char) : upperChars (a ++ b) = upperChars a ++ upperChars b := by
  simp [upperChars]

theorem fold_append (a b : List Char) : foldChars (a ++ b) = foldChars a ++ foldChars b := by
  simp [foldChars]

end Compendium.Text
