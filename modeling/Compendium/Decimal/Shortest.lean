import Compendium.Decimal.Double

/-!
# The shortest decimal of a double

Of the decimals that read back as a double, the one with the fewest digits is written, and of
several such the nearest. The two neighbours of the double on the grid of one digit, two digits and
so on are tried in turn; seventeen digits always suffice, and the exact value stands behind them.
Main statement: what is chosen from a grid reads back (`readsBack_onGrid`).
-/

namespace Compendium

/-- The number `digits * 10 ^ exponent`. -/
structure Decimal where
  digits : Nat
  exponent : Int
deriving DecidableEq, Repr

namespace Double

/-- The decimal rounds to that many units. -/
def readsBack (units : Nat) (d : Decimal) : Bool :=
  ofDecimal false d.digits d.exponent = .finite false units

/-- How many zeros stand between the point and the first digit of `units`, at most `fuel`. -/
def zerosAfterPoint : Nat → Nat → Nat
  | 0, _ => 0
  | fuel + 1, units => if units * 10 < one then zerosAfterPoint fuel (units * 10) + 1 else 0

/-- Where the point stands: the least `p` with `units` below `10 ^ p`. -/
def pointPlace (units : Nat) : Int :=
  if one ≤ units then ((Nat.toDigits 10 (units / one)).length : Int)
  else -(zerosAfterPoint 330 units : Int)

/-- The neighbour of `units` on the grid of `count` digits that reads back, the nearer of two. -/
def onGrid (units : Nat) (point : Int) (count : Nat) : Option Decimal :=
  let exponent := point - count
  let num := if exponent ≤ 0 then units * Nat.pow 10 (-exponent).toNat else units
  let den := if exponent ≤ 0 then one else one * Nat.pow 10 exponent.toNat
  let below : Decimal := ⟨num / den, exponent⟩
  let above : Decimal := ⟨num / den + 1, exponent⟩
  match readsBack units below, readsBack units above with
  | true, true => some (if roundDiv num den = num / den then below else above)
  | true, false => some below
  | false, true => some above
  | false, false => none

/-- How many units of `10 ^ -1074` make a unit of `2 ^ -1074`. -/
def unitDigits : Nat := Nat.pow 5 1074

/-- The value itself as a decimal. -/
def exact (units : Nat) : Decimal where
  digits := units * unitDigits
  exponent := -1074

/-- The first decimal that reads back on the grids of `count`, `count + 1`, … digits. -/
def search (units : Nat) (point : Int) : Nat → Nat → Decimal
  | 0, _ => exact units
  | fuel + 1, count => (onGrid units point count).getD (search units point fuel (count + 1))

/-- The shortest decimal of a positive number of units. -/
def shortest (units : Nat) : Decimal := search units (pointPlace units) 17 1

theorem readsBack_choice {units : Nat} {c : Prop} [Decidable c] {x y d : Decimal}
    (h : (match readsBack units x, readsBack units y with
      | true, true => some (if c then x else y)
      | true, false => some x
      | false, true => some y
      | false, false => none) = some d) : readsBack units d = true := by
  cases hx : readsBack units x <;> cases hy : readsBack units y <;>
    simp only [hx, hy, Option.some.injEq, reduceCtorEq] at h
  · exact h ▸ hy
  · exact h ▸ hx
  · split at h
    · exact h ▸ hx
    · exact h ▸ hy

theorem readsBack_onGrid {units : Nat} {point : Int} {count : Nat} {d : Decimal}
    (h : onGrid units point count = some d) : readsBack units d = true :=
  readsBack_choice h

end Double

/-- How the digits of a number are laid out: from `10 ^ low` up to but not at `10 ^ high` around a
point, elsewhere with an exponent of at least `exponentWidth` digits; `pointZero` gives a whole
number a point and a zero. -/
structure NumberLayout where
  low : Int
  high : Int
  exponentWidth : Nat
  pointZero : Bool

/-- Numbers from `10 ^ -4` to `10 ^ 16` stand around a point, whole ones end in `.0`, and an
exponent has a sign and at least two digits. -/
def NumberLayout.plain : NumberLayout := ⟨-4, 16, 2, true⟩

/-- A list of digits with zeros in front, to at least `width` digits. -/
def padZeros (width : Nat) (digits : List Char) : List Char :=
  List.replicate (width - digits.length) '0' ++ digits

/-- The digits of a decimal without the zeros at their end. -/
def Decimal.significant (d : Decimal) : List Char :=
  ((Nat.toDigits 10 d.digits).reverse.dropWhile (· = '0')).reverse

def Decimal.layOut (d : Decimal) (layout : NumberLayout) : List Char :=
  let digits := d.significant
  let point : Int := (Nat.toDigits 10 d.digits).length + d.exponent
  let power := point - 1
  if layout.low ≤ power ∧ power < layout.high then
    if point ≤ 0 then '0' :: '.' :: (List.replicate (-point).toNat '0' ++ digits)
    else if digits.length ≤ point.toNat then
      digits ++ List.replicate (point.toNat - digits.length) '0' ++
        (if layout.pointZero then ['.', '0'] else [])
    else digits.take point.toNat ++ '.' :: digits.drop point.toNat
  else
    let mantissa := match digits with
      | first :: second :: rest => first :: '.' :: second :: rest
      | short => short
    mantissa ++ 'e' :: (if power < 0 then '-' else '+') ::
      padZeros layout.exponentWidth (Nat.toDigits 10 power.natAbs)

def Double.magnitudeText (layout : NumberLayout) (units : Nat) : List Char :=
  if units = 0 then (if layout.pointZero then ['0', '.', '0'] else ['0'])
  else (Double.shortest units).layOut layout

/-- A number under the plain layout; the names of the numbers that are not finite are given. -/
def Double.textWith (nan infinity : String) : Double → String
  | .nan => nan
  | .infinite negative => if negative then "-" ++ infinity else infinity
  | .finite negative units =>
    let digits := magnitudeText .plain units
    String.ofList (if negative then '-' :: digits else digits)

/-- A number as shown to a reader. -/
def Double.text (x : Double) : String := x.textWith "nan" "inf"

end Compendium
