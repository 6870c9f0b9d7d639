/-!
# Shortest decimals

A positive binary fraction `m · 2 ^ q` of a floating-point format stands for every real number that
rounds to it. This module picks, among the decimals with the fewest digits in that interval, the one
nearest to the fraction; a decimal exactly between two candidates gives way to the upper one.

All arithmetic is on natural numbers. A decimal `c · 10 ^ e` and the ends of the interval are
compared after multiplication by a common denominator, so nothing is rounded on the way.
-/

set_option autoImplicit false

namespace AccessControl.Decimal

/-- A positive binary fraction `mantissa · 2 ^ exponent`. The next fraction above it is one unit of
the mantissa away; `tight` says that the next one below is only half a unit away. -/
structure BinaryFraction where
  mantissa : Nat
  exponent : Int
  tight : Bool
  deriving DecidableEq

/-- A decimal `digits · 10 ^ exponent`. -/
structure DecimalFraction where
  digits : Nat
  exponent : Int
  deriving DecidableEq

def digitCount (n : Nat) : Nat :=
  (Nat.toDigits 10 n).length

/-- One position of a decimal grid of unit `10 ^ e`: in quarters of the mantissa's unit, the
fraction is `4 · mantissa`, and `quarter / step` is the length of a quarter in units of the grid. -/
structure Grid where
  quarter : Nat
  step : Nat

namespace BinaryFraction

/-- The grid of unit `10 ^ e` laid over a fraction. -/
def grid (x : BinaryFraction) (e : Int) : Grid where
  quarter := Nat.pow 2 (x.exponent - 2).toNat * Nat.pow 10 (-e).toNat
  step := Nat.pow 2 (2 - x.exponent).toNat * Nat.pow 10 e.toNat

/-- The distance from the fraction to the lower end of its interval, in quarters. -/
def lowerReach (x : BinaryFraction) : Nat :=
  if x.tight then 1 else 2

/-- Whether the `c`-th position of a grid rounds to the fraction. The ends of the interval belong to
fractions with an even mantissa. -/
def covers (x : BinaryFraction) (g : Grid) (c : Nat) : Bool :=
  let lower := (4 * x.mantissa - x.lowerReach) * g.quarter
  let upper := (4 * x.mantissa + 2) * g.quarter
  let position := c * g.step
  if x.mantissa % 2 = 0 then lower ≤ position && position ≤ upper
  else lower < position && position < upper

/-- The position of a grid that rounds to the fraction and lies nearest to it, if there is one. Only
the two neighbours of the fraction can be nearest; of two equally near ones the upper is taken. -/
def nearestOn? (x : BinaryFraction) (g : Grid) : Option Nat :=
  let value := 4 * x.mantissa * g.quarter
  let below := value / g.step
  let above := below + 1
  match x.covers g below, x.covers g above with
  | true, true => if value - below * g.step < above * g.step - value then some below else some above
  | true, false => some below
  | false, true => some above
  | false, false => none

/-- The power of ten just above the fraction: it is at least `10 ^ (k - 1)` and less than `10 ^
k`. -/
def magnitude (x : BinaryFraction) : Int :=
  let g := x.grid 0
  let value := 4 * x.mantissa * g.quarter
  let estimate : Int := (digitCount value : Int) - digitCount g.step
  let reached :=
    if estimate < 0 then g.step ≤ value * Nat.pow 10 (-estimate).toNat
    else g.step * Nat.pow 10 estimate.toNat ≤ value
  if reached then estimate + 1 else estimate

/-- The candidate with `count` digits, if a decimal of that length rounds to the fraction. -/
def candidate? (x : BinaryFraction) (count : Nat) : Option DecimalFraction :=
  let e := x.magnitude - count
  (x.nearestOn? (x.grid e)).map fun c =>
    if c = Nat.pow 10 count then ⟨1, e + count⟩ else ⟨c, e⟩

/-- The shortest decimal that rounds to the fraction. Seventeen digits always suffice for a mantissa
below `2 ^ 53`; the integer part stands in for a longer one. -/
def shortest (x : BinaryFraction) : DecimalFraction :=
  match (List.range 17).findSome? fun i => x.candidate? (i + 1) with
  | some d => d
  | none => ⟨4 * x.mantissa * (x.grid 0).quarter / (x.grid 0).step, 0⟩

end BinaryFraction

end AccessControl.Decimal
