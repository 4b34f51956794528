import PageComposer.Binary64

/-!
# Numbers of 64 significant bits

An `Extended` is a natural number times a power of two.  Every operation gives the exact
result rounded to 64 significant bits, a tie going to the even significand; no exponent is
out of range.  What a double holds, an `Extended` holds as well.
-/

namespace PageComposer

/-- The number `significand * 2 ^ exponent`. -/
structure Extended where
  significand : Nat
  exponent : Int
  deriving DecidableEq, Repr

namespace Extended

/-- The number counted in a power of two that is at most its own. -/
def inUnitsOf (value : Extended) (exponent : Int) : Nat :=
  value.significand * Nat.pow 2 (value.exponent - exponent).toNat

/-- One number is at most another. -/
def atMost (left right : Extended) : Bool :=
  let exponent := min left.exponent right.exponent
  left.inUnitsOf exponent ≤ right.inUnitsOf exponent

/-- The whole part. -/
def floor (value : Extended) : Nat :=
  value.inUnitsOf 0 / Nat.pow 2 (-value.exponent).toNat

/-- The quotient of two natural numbers times a power of two, in 64 bits. -/
def ofQuotient (numerator denominator : Nat) (exponent : Int) : Extended :=
  if numerator = 0 then ⟨0, 0⟩
  else
    let shiftedBy (places : Int) : Nat × Nat :=
      (numerator * Nat.pow 2 places.toNat, denominator * Nat.pow 2 (-places).toNat)
    let places : Int := 64 + Nat.log2 denominator - Nat.log2 numerator
    let (above, below) := shiftedBy places
    let places := if above / below < UInt64.size then places else places - 1
    let (above, below) := shiftedBy places
    ⟨Binary64.roundHalfEven above below, exponent - places⟩

/-- The absolute value of a finite double. -/
def ofBinary64 (value : Binary64) : Extended := ⟨value.significand, value.shift - 1074⟩

def ofNat (value : Nat) : Extended := ofQuotient value 1 0

/-- The double nearest to a power of ten. -/
def tenTo (power : Int) : Extended := ofBinary64 (Binary64.ofDecimal false 1 power)

def mul (left right : Extended) : Extended :=
  ofQuotient (left.significand * right.significand) 1 (left.exponent + right.exponent)

def div (left right : Extended) : Extended :=
  ofQuotient left.significand right.significand (left.exponent - right.exponent)

def add (left right : Extended) : Extended :=
  let exponent := min left.exponent right.exponent
  ofQuotient (left.inUnitsOf exponent + right.inUnitsOf exponent) 1 exponent

/-- The difference of two numbers, zero below zero. -/
def sub (left right : Extended) : Extended :=
  let exponent := min left.exponent right.exponent
  ofQuotient (left.inUnitsOf exponent - right.inUnitsOf exponent) 1 exponent

end Extended

end PageComposer
