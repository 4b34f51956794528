import PageComposer.Binary64

/-!
# Numbers of two kinds

Integers of any size and doubles are compared by the exact value they stand for;
no integer is rounded on the way.  A not-a-number is neither below, above nor
equal to anything.
-/

namespace PageComposer

/-- A whole number or a double. -/
inductive Number where
  | int (value : Int)
  | float (value : Binary64)
  deriving DecidableEq, Repr

namespace Number

/-- Where a number lies on the line of all numbers: an end of the line or the
middle, and in the middle its distance from zero in units of `2 ^ -1074`. -/
def place? : Number → Option (Int × Int)
  | .int value => some (0, value * Binary64.one)
  | .float value =>
      if value.isNaN then none
      else if value.isInfinite then some (if value.negative then -1 else 1, 0)
      else some (0, value.scaled)

/-- One number lies strictly below the other. -/
def below (left right : Number) : Bool :=
  match left.place?, right.place? with
  | some (end₁, units₁), some (end₂, units₂) =>
      end₁ < end₂ || (end₁ == end₂ && units₁ < units₂)
  | _, _ => false

/-- Both numbers stand for the same value. -/
def same (left right : Number) : Bool :=
  match left.place?, right.place? with
  | some place₁, some place₂ => place₁ == place₂
  | _, _ => false

def atMost (left right : Number) : Bool := left.below right || left.same right

/-- The integer that a number stands for, if it stands for one. -/
def toInt? : Number → Option Int
  | .int value => some value
  | .float value => value.toInt?

end Number

end PageComposer
