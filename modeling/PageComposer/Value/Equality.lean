import PageComposer.Value

/-!
# Equality of data

Two values can hold the same data without being built alike: the order of keys does
not count, and neither does the kind of a number.  A not-a-number is the same as itself,
though it equals nothing as a number.  `sameData` keeps truth values apart from numbers
at every depth; `looselySame` takes them for one and zero.
-/

namespace PageComposer.Value

/-- A number or, for a truth value, one or zero. -/
def quantity? : Value → Option Number
  | .bool true => some (.int 1)
  | .bool false => some (.int 0)
  | value => value.number?

/-- Values that hold no others are the same when they are alike, or when both count
as numbers and these are the same. -/
def sameScalar (asNumber : Value → Option Number) (left right : Value) : Bool :=
  left == right ||
    match asNumber left, asNumber right with
    | some left, some right => left.same right
    | _, _ => false

mutual

/-- Two values hold the same data, where a given function says what counts as a number. -/
def sameUnder (asNumber : Value → Option Number) : Value → Value → Bool
  | .list lefts, .list rights => sameItemsUnder asNumber lefts rights
  | .object lefts, .object rights =>
      lefts.length == rights.length && sameFieldsUnder asNumber lefts rights
  | left, right => sameScalar asNumber left right

def sameItemsUnder (asNumber : Value → Option Number) : List Value → List Value → Bool
  | [], [] => true
  | left :: lefts, right :: rights =>
      sameUnder asNumber left right && sameItemsUnder asNumber lefts rights
  | _, _ => false

/-- Each entry of the first object has a partner in the second. -/
def sameFieldsUnder (asNumber : Value → Option Number) :
    List (String × Value) → List (String × Value) → Bool
  | [], _ => true
  | (key, left) :: lefts, rights =>
      (match Fields.get? rights key with
        | some right => sameUnder asNumber left right
        | none => false)
        && sameFieldsUnder asNumber lefts rights

end

/-- The same data, truth values apart from numbers. -/
def sameData : Value → Value → Bool := sameUnder number?

/-- The same data, with true for one and false for zero. -/
def looselySame : Value → Value → Bool := sameUnder quantity?

end PageComposer.Value
