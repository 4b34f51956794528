import PageComposer.Decimal.Shortest

/-!
# A fixed number of digits

A positive finite double is rounded to the nearest decimal number with so many
digits, a half going to the even digit.  The exponent of the leading digit is found
first; rounding up to a power of ten moves it up by one.
-/

namespace PageComposer.Decimal

/-- The quotient of a positive finite double by `10 ^ exponent`, as two naturals. -/
def quotient (value : Binary64) (exponent : Int) : Nat × Nat :=
  (value.magnitude * Nat.pow 10 (-exponent).toNat, Binary64.one * Nat.pow 10 exponent.toNat)

/-- The exponent of the leading digit of a positive finite double. -/
def leadingExponent (value : Binary64) : Int :=
  let top := topExponent value
  let found := (List.range 4).findSome? fun (step : Nat) =>
    let exponent := top - (step : Int)
    let (above, below) := quotient value exponent
    if below ≤ above then some exponent else none
  found.getD top

/-- A finite double rounded to `places + 1` digits, all of them written. -/
def rounded (places : Nat) (value : Binary64) : Scientific :=
  if value.isZero then ⟨0, -places⟩
  else
    let exponent := leadingExponent value - places
    let (above, below) := quotient value exponent
    let digits := Binary64.roundHalfEven above below
    if digits = Nat.pow 10 (places + 1) then ⟨Nat.pow 10 places, exponent + 1⟩
    else ⟨digits, exponent⟩

end PageComposer.Decimal
