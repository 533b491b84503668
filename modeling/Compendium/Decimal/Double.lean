/-!
# Double-precision numbers

A finite double is a sign and a whole number of units of `2 ^ -1074`, the smallest step there is.
Nothing is computed with doubles but their nearest decimal and their nearest whole number, so this
exact form is all that is needed. Reading a decimal rounds it to the nearest double, a tie to the
one whose last bit is zero.
-/

namespace Compendium

/-- A double-precision number: `finite negative units` is `units * 2 ^ -1074`, with its sign. -/
inductive Double where
  | nan
  | infinite (negative : Bool)
  | finite (negative : Bool) (units : Nat)
deriving DecidableEq, Repr, Inhabited

namespace Double

def one : Nat := Nat.pow 2 1074

/-- The first number of units that is too large for a finite double. -/
def bound : Nat := Nat.pow 2 2098

/-- The quotient rounded to the nearest whole number, a tie to the even one. -/
def roundDiv (num den : Nat) : Nat :=
  let quotient := num / den
  let twice := 2 * (num % den)
  if twice < den ∨ twice = den ∧ quotient % 2 = 0 then quotient else quotient + 1

/-- The spacing of the doubles around `n` units: a double has 53 significant bits. -/
def spacing (n : Nat) : Nat := Nat.pow 2 (n.log2 - 52)

/-- The number of units of the double nearest to `num / den` units. -/
def nearestUnits (num den : Nat) : Nat :=
  let step := spacing (num / den)
  roundDiv num (den * step) * step

/-- The double of that many units, infinite if there are too many. -/
def ofUnits (negative : Bool) (units : Nat) : Double :=
  if units < bound then .finite negative units else .infinite negative

/-- The double nearest to `digits * 10 ^ exponent`. -/
def ofDecimal (negative : Bool) (digits : Nat) (exponent : Int) : Double :=
  let magnitude := (Nat.toDigits 10 digits).length + exponent
  if digits = 0 ∨ magnitude < -400 then .finite negative 0
  else if 400 < magnitude then .infinite negative
  else if 0 ≤ exponent then
    ofUnits negative (nearestUnits (digits * Nat.pow 10 exponent.toNat * one) 1)
  else ofUnits negative (nearestUnits (digits * one) (Nat.pow 10 (-exponent).toNat))

def isFinite : Double → Bool
  | .finite _ _ => true
  | _ => false

def isWhole : Double → Bool
  | .finite _ units => units % one = 0
  | _ => false

/-- The whole part of a finite number, zero of any other. -/
def whole : Double → Int
  | .finite negative units => if negative then -(units / one : Nat) else (units / one : Nat)
  | _ => 0

def isZero : Double → Bool
  | .finite _ units => units = 0
  | _ => false

/-- The number is at least zero; zero itself is, of either sign. -/
def nonnegative : Double → Bool
  | .nan => false
  | .infinite negative => !negative
  | .finite negative units => !negative || units = 0

/-- The numbers compare as equal: zeros of both signs do, and nothing equals an undefined number. -/
def equals : Double → Double → Bool
  | .nan, _ => false
  | .finite s m, .finite t n => m = n && (s = t || m = 0)
  | x, y => decide (x = y)

end Double

end Compendium
