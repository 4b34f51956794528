/-!
# Double precision numbers

A `Binary64` is the sign, the biased exponent and the fraction of an IEEE 754
double.  Every finite double is an integer multiple of `2 ^ -1074`; `scaled` is
that integer, so values are compared and tested for being whole in integer
arithmetic alone.

`nearest` rounds a quotient of natural numbers to the nearest double, a tie
going to the even significand, and runs over to infinity where the rounded value
has no finite form.
-/

namespace PageComposer

/-- An IEEE 754 double by its three fields. -/
structure Binary64 where
  negative : Bool
  exponent : Fin 2048
  fraction : Fin 4503599627370496
  deriving DecidableEq, Repr, Inhabited

namespace Binary64

/-- One, counted in the unit `2 ^ -1074`. -/
def one : Nat := Nat.pow 2 1074

/-- The exponent is below the one kept for infinities and not-a-number. -/
def isFinite (value : Binary64) : Bool := value.exponent.val != 2047

def isNaN (value : Binary64) : Bool :=
  value.exponent.val == 2047 && value.fraction.val != 0

def isInfinite (value : Binary64) : Bool :=
  value.exponent.val == 2047 && value.fraction.val == 0

/-- The significand as a whole number, the hidden bit included. -/
def significand (value : Binary64) : Nat :=
  if value.exponent.val = 0 then value.fraction.val
  else 4503599627370496 + value.fraction.val

/-- The weight of the significand's last bit is `2 ^ shift` units. -/
def shift (value : Binary64) : Nat := value.exponent.val - 1

/-- The absolute value of a finite double in units of `2 ^ -1074`. -/
def magnitude (value : Binary64) : Nat := value.significand * Nat.pow 2 value.shift

/-- A finite double in units of `2 ^ -1074`. -/
def scaled (value : Binary64) : Int :=
  if value.negative then -(value.magnitude : Int) else value.magnitude

/-- Both zeros, whatever their sign. -/
def isZero (value : Binary64) : Bool :=
  value.exponent.val == 0 && value.fraction.val == 0

/-- The integer that a double stands for, if it stands for one. -/
def toInt? (value : Binary64) : Option Int :=
  if value.isFinite && value.magnitude % one == 0 then
    let whole : Int := value.magnitude / one
    some (if value.negative then -whole else whole)
  else none

def infinity (negative : Bool) : Binary64 := ⟨negative, ⟨2047, by decide⟩, ⟨0, by decide⟩⟩

def nan : Binary64 := ⟨false, ⟨2047, by decide⟩, ⟨2251799813685248, by decide⟩⟩

def zero (negative : Bool) : Binary64 := ⟨negative, ⟨0, by decide⟩, ⟨0, by decide⟩⟩

/-- A quotient rounded to the nearest whole number, a half going to the even one. -/
def roundHalfEven (numerator denominator : Nat) : Nat :=
  let quotient := numerator / denominator
  let rest := 2 * (numerator % denominator)
  if rest < denominator then quotient
  else if denominator < rest then quotient + 1
  else quotient + quotient % 2

/-- The double with a given significand and weight of its last bit; infinite when
the exponent does not fit. -/
def ofSignificand (negative : Bool) (significand shift : Nat) : Binary64 :=
  let exponent := if significand < 4503599627370496 then 0 else shift + 1
  if fits : exponent < 2047 then
    ⟨negative, ⟨exponent, by omega⟩,
      ⟨significand % 4503599627370496, Nat.mod_lt _ (by decide)⟩⟩
  else infinity negative

/-- The double nearest to a quotient of natural numbers. -/
def nearest (negative : Bool) (numerator denominator : Nat) : Binary64 :=
  let units := numerator * one
  let whole := units / denominator
  let shift := if whole < 9007199254740992 then 0 else Nat.log2 whole - 52
  let rounded := roundHalfEven units (denominator * Nat.pow 2 shift)
  if rounded < 9007199254740992 then ofSignificand negative rounded shift
  else ofSignificand negative (rounded / 2) (shift + 1)

/-- The double nearest to the product of the absolute values of two finite doubles. -/
def product (left right : Binary64) : Binary64 :=
  nearest false (left.magnitude * right.magnitude) (one * one)

/-- The double nearest to `digits * 10 ^ exponent`.  Exponents far outside the
range of doubles are settled before any power of ten is formed. -/
def ofDecimal (negative : Bool) (digits : Nat) (exponent : Int) : Binary64 :=
  if digits = 0 then zero negative
  else
    let places : Int := Nat.log2 digits
    if exponent > 400 then infinity negative
    else if exponent + places < -400 then zero negative
    else if exponent ≥ 0 then nearest negative (digits * Nat.pow 10 exponent.toNat) 1
    else nearest negative digits (Nat.pow 10 (-exponent).toNat)

/-- The double nearest to an integer, if it is a finite one. -/
def ofInt? (value : Int) : Option Binary64 :=
  let rounded := nearest (value < 0) value.natAbs 1
  if rounded.isFinite then some rounded else none

end Binary64

end PageComposer
