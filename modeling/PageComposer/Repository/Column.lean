import PageComposer.Decimal.Layout
import PageComposer.Decimal.Stepwise
import PageComposer.Fault

/-!
# Columns of texts

A column of texts is compared with values of any kind, each of which has a text in the
column.  Numbers are integers of 64 bits or doubles, of which fifteen digits are taken one
at a time, and there is but one zero; null and a not-a-number have no text, and lists and
objects no place.
-/

namespace PageComposer.Column

/-- A double as its text in a column. -/
def doubleText? (value : Binary64) : Option String :=
  if value.isNaN then none
  else if value.isZero then some "0.0"
  else some (Decimal.Layout.column.writeBy (Decimal.stepwise 14) value)

/-- A value as its text in a column, if it has one. -/
def text? : Value → Outcome (Option String)
  | .null => .ok none
  | .bool flag => .ok (some (if flag then "1" else "0"))
  | .int value =>
      if Int64.minValue.toInt ≤ value ∧ value ≤ Int64.maxValue.toInt then
        .ok (some (toString value))
      else .error (.misuse .tooLarge)
  | .float value => .ok (doubleText? value)
  | .str text => .ok (some text)
  | .list _ | .object _ => .error (.denial .unsupported)

end PageComposer.Column
