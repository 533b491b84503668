/-!
# Tables over code points

A property of characters is a list of inclusive ranges, a mapping to one character a list of runs,
a mapping to several a list of blocks. All lists ascend, and each is searched from the front.
-/

namespace Compendium.Text

def inRanges : List (Nat × Nat) → Nat → Bool
  | [], _ => false
  | r :: rest, n => if n < r.1 then false else n ≤ r.2 || inRanges rest n

/-- Every `step`-th code point from `first` to `last`, sent to the code point as far from `image`. -/
structure Run where
  first : Nat
  last : Nat
  step : Nat
  image : Nat

/-- Where a run sends `n`, if it covers `n`. -/
def Run.image? (r : Run) (n : Nat) : Option Nat :=
  if r.first ≤ n && n ≤ r.last && (n - r.first) % r.step == 0 then
    some (r.image + (n - r.first))
  else none

def runImage? : List Run → Nat → Option Nat
  | [], _ => none
  | r :: rest, n => if n < r.first then none else (r.image? n).or (runImage? rest n)

/-- Consecutive code points from `first` to `last`, each with its own image. -/
structure Block where
  first : Nat
  last : Nat
  images : List (List Nat)

/-- What the block that holds `n` lists for it. -/
def blockImage? : List Block → Nat → Option (List Nat)
  | [], _ => none
  | b :: rest, n =>
    if n < b.first then none
    else if n ≤ b.last then b.images[n - b.first]?
    else blockImage? rest n

def ofCodes (codes : List Nat) : List Char := codes.map Char.ofNat

end Compendium.Text
