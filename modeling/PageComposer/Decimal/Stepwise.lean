import PageComposer.Decimal.Shortest
import PageComposer.Extended

/-!
# Digits one at a time

A positive finite double is brought between one and ten by powers of ten, half a unit of the
last wanted digit is added, and the digits are taken off one at a time.  All of this is done
in 64 significant bits, so the last of the digits can differ from the one that exact
arithmetic gives.
-/

namespace PageComposer.Decimal

/-- A number together with the decimal exponent that has been taken out of it. -/
structure Scaled where
  value : Extended
  exponent : Int

namespace Scaled

/-- Multiply a scale by a power of ten, at most so often, as long as it stays below a
number. -/
def grow (number : Extended) (power : Nat) : Nat → Scaled → Scaled
  | 0, scale => scale
  | times + 1, scale =>
      let next := scale.value.mul (.tenTo power)
      if next.atMost number then grow number power times ⟨next, scale.exponent + power⟩ else scale

/-- Multiply a number by a power of ten, at most so often, as long as it is below a bound. -/
def lift (bound : Extended) (power : Nat) : Nat → Scaled → Scaled
  | 0, scaled => scaled
  | times + 1, scaled =>
      if bound.atMost scaled.value then scaled
      else lift bound power times ⟨scaled.value.mul (.tenTo power), scaled.exponent - power⟩

/-- A positive number between one and ten. -/
def ofPositive (number : Extended) : Scaled :=
  let scale := grow number 1 10 <| grow number 10 10 <| grow number 100 4 ⟨.ofNat 1, 0⟩
  lift (.ofNat 1) 1 8 <| lift (.tenTo (-8)) 8 41 ⟨number.div scale.value, scale.exponent⟩

/-- Half a unit of the digit at a place, which ten places at a time are multiplied to. -/
def halfUnit (places : Nat) : Binary64 :=
  Nat.repeat (Binary64.product (Binary64.ofDecimal false 1 (-10))) (places / 10)
    (Binary64.ofDecimal false 5 (-((places % 10 : Nat) : Int) - 1))

/-- Add half a unit of the digit at a place; a carry moves the exponent. -/
def roundUp (places : Nat) (scaled : Scaled) : Scaled :=
  let raised := scaled.value.add (.ofBinary64 (halfUnit places))
  if (Extended.ofNat 10).atMost raised then ⟨raised.mul (.tenTo (-1)), scaled.exponent + 1⟩
  else ⟨raised, scaled.exponent⟩

end Scaled

/-- The first digits of a number below ten, written after those that are there already. -/
def digitsAfter (read : Nat) : Nat → Extended → Nat
  | 0, _ => read
  | count + 1, value =>
      let digit := value.floor
      digitsAfter (read * 10 + digit) count ((value.sub (.ofNat digit)).mul (.ofNat 10))

/-- A positive finite double by `places + 1` digits. -/
def stepwise (places : Nat) (value : Binary64) : Scientific :=
  let scaled := (Scaled.ofPositive (.ofBinary64 value)).roundUp places
  ⟨digitsAfter 0 (places + 1) scaled.value, scaled.exponent - places⟩

end PageComposer.Decimal
