import PageComposer.Binary64

/-!
# The fewest digits that read back

A finite positive double is the nearest one to every real number in an interval
around it.  The decimal number with the fewest digits in that interval is found
by looking at coarser grids first: on the grid of the multiples of `10 ^ k` only
the two neighbours of the double can lie in the interval.  Of two neighbours that
both do, the nearer one is taken, and the even one if they are equally near.
-/

namespace PageComposer.Decimal

/-- A decimal number `digits * 10 ^ exponent`. -/
structure Scientific where
  digits : Nat
  exponent : Int
  deriving DecidableEq, Repr

/-- The real numbers that round to a double, over the common denominator
`2 ^ 1076`; the ends belong to it when the significand is even. -/
structure Neighbourhood where
  low : Nat
  centre : Nat
  high : Nat
  closed : Bool

def Neighbourhood.of (value : Binary64) : Neighbourhood :=
  let centre := 4 * value.magnitude
  let unit := Nat.pow 2 value.shift
  let below := if value.fraction.val = 0 ∧ 1 < value.exponent.val then unit else 2 * unit
  { low := centre - below
    centre := centre
    high := centre + 2 * unit
    closed := value.significand % 2 == 0 }

/-- The neighbour on the grid of the multiples of `10 ^ exponent` that reads back,
if one does. -/
def Neighbourhood.onGrid? (range : Neighbourhood) (exponent : Int) : Option Nat :=
  let up := Nat.pow 10 exponent.toNat * (4 * Binary64.one)
  let down := Nat.pow 10 (-exponent).toNat
  let inside (digits : Nat) : Bool :=
    let point := digits * up
    if range.closed then range.low * down ≤ point && point ≤ range.high * down
    else range.low * down < point && point < range.high * down
  let lower := range.centre * down / up
  let upper := lower + 1
  let twice := 2 * (range.centre * down)
  let middle := (lower + upper) * up
  match inside lower, inside upper with
  | true, true =>
      if twice < middle then some lower
      else if middle < twice then some upper
      else some (if lower % 2 = 0 then lower else upper)
  | true, false => some lower
  | false, true => some upper
  | false, false => none

/-- A decimal exponent that no digit of the double lies above. -/
def topExponent (value : Binary64) : Int :=
  ((Nat.log2 value.magnitude : Int) - 1073) * 30103 / 100000 + 1

/-- The fewest digits that read back as a positive finite double. -/
def shortest (value : Binary64) : Scientific :=
  let range := Neighbourhood.of value
  let top := topExponent value
  let found := (List.range 24).findSome? fun (step : Nat) =>
    let exponent := top - (step : Int)
    (range.onGrid? exponent).map fun digits => (⟨digits, exponent⟩ : Scientific)
  found.getD ⟨value.magnitude, 0⟩

end PageComposer.Decimal
