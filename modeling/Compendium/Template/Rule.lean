/-!
# Matching rules

A rule matches the front of a text and gives a value, or does not match, or breaks off where the
text can mean nothing. Choices are ordered: the second alternative is tried where the first does
not match. Beside its result a rule keeps the furthest place that was looked at, so that the place
where a text stops making sense can be told; the end of the text counts as looked at only where a
rule found nothing there that it could do without.
-/

namespace Compendium

/-- What a rule makes of the characters left: a value, the place after what it matched and the
characters left there, no match, or a break. -/
inductive Match (α : Type) where
  | found (value : α) (place : Nat) (rest : List Char)
  | missing
  | broken

/-- What a rule makes of a place in a text and the characters left there, given the furthest place
looked at so far; with it, the furthest place looked at. -/
def Rule (α : Type) := Nat → List Char → Nat → Match α × Nat

namespace Rule

variable {α β : Type}

/-- Matches nothing and gives a value. -/
def succeed (a : α) : Rule α := fun place cs furthest => (.found a place cs, furthest)

def fail : Rule α := fun _ _ furthest => (.missing, furthest)

def breakOff : Rule α := fun _ _ furthest => (.broken, furthest)

/-- One rule, and then another that depends on its value. -/
def andThen (r : Rule α) (next : α → Rule β) : Rule β := fun place cs furthest =>
  match r place cs furthest with
  | (.found a place rest, furthest) => next a place rest furthest
  | (.missing, furthest) => (.missing, furthest)
  | (.broken, furthest) => (.broken, furthest)

instance : Monad Rule where
  pure := succeed
  bind := andThen

/-- The first rule, or the second where the first does not match. -/
def orElse (a b : Rule α) : Rule α := fun place cs furthest =>
  match a place cs furthest with
  | (.missing, furthest) => b place cs furthest
  | result => result

/-- The first of some rules that matches. -/
def firstOf : List (Rule α) → Rule α
  | [] => fail
  | [r] => r
  | r :: rest => r.orElse (firstOf rest)

/-- A character of a class. -/
def satisfying (p : Char → Bool) : Rule Char := fun place cs furthest =>
  match cs with
  | c :: rest => (if p c then .found c (place + 1) rest else .missing, max furthest place)
  | [] => (.missing, furthest)

/-- Matches nothing, and only if the condition holds. -/
def check (b : Bool) : Rule Unit := if b then succeed () else fail

def orBreak : Option α → Rule α
  | some a => succeed a
  | none => breakOff

def exactly : List Char → Rule Unit
  | [] => succeed ()
  | c :: rest => do
    let _ ← satisfying (· = c)
    exactly rest

def word (s : String) : Rule Unit := exactly s.toList

/-- Matches nothing, and only where the rule does not match. -/
def notAt (r : Rule α) : Rule Unit := fun place cs furthest =>
  match r place cs furthest with
  | (.found _ _ _, furthest) => (.missing, furthest)
  | (.missing, furthest) => (.found () place cs, max furthest place)
  | (.broken, furthest) => (.broken, furthest)

/-- A rule as often as it matches, at most `fuel` times. -/
def upTo (r : Rule α) : Nat → Rule (List α)
  | 0 => succeed []
  | fuel + 1 => fun place cs furthest =>
    match r place cs furthest with
    | (.found a place rest, furthest) =>
      match upTo r fuel place rest furthest with
      | (.found as place rest, furthest) => (.found (a :: as) place rest, furthest)
      | result => result
    | (.missing, furthest) => (.found [] place cs, furthest)
    | (.broken, furthest) => (.broken, furthest)

/-- A rule as often as it matches. Each match takes a character, so there are no more matches than
characters; one more try sees that the rule no longer matches. -/
def many (r : Rule α) : Rule (List α) := fun place cs => upTo r (cs.length + 1) place cs

/-- A rule at least once, and as often as it matches. -/
def many1 (r : Rule α) : Rule (List α) := do
  let a ← r
  let as ← many r
  return a :: as

/-- A rule, or nothing where it does not match. -/
def optional (r : Rule α) : Rule (Option α) := fun place cs furthest =>
  match r place cs furthest with
  | (.found a place rest, furthest) => (.found (some a) place rest, furthest)
  | (.missing, furthest) => (.found none place cs, max furthest place)
  | (.broken, furthest) => (.broken, furthest)

/-- What a rule makes of a whole text: its value, if it matches, and the furthest place that it
looked at; nothing if it breaks off. -/
def run? (r : Rule α) (text : List Char) : Option (Option α × Nat) :=
  match r 0 text 0 with
  | (.found a _ _, furthest) => some (some a, furthest)
  | (.missing, furthest) => some (none, furthest)
  | (.broken, _) => none

end Rule

end Compendium
