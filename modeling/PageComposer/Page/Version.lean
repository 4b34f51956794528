import PageComposer.Text.Blank
import PageComposer.Text.DecimalDigit

/-!
# Page versions

A version is one, two or three numbers joined by dots.  A number is a lone zero, or
starts with one of the digits 1 to 9 and goes on with decimal digits of any script.
-/

namespace PageComposer.Version

/-- The digits 1 to 9 that a number may start with. -/
def isLeadingDigit (char : Char) : Bool := '1' ≤ char && char ≤ '9'

/-- One number of a version. -/
def isNumber : List Char → Bool
  | ['0'] => true
  | [] => false
  | first :: rest => isLeadingDigit first && rest.all Text.isDecimalDigit

/-- The text of a version. -/
def accepts (text : String) : Bool :=
  let (first, others) := Text.cut '.' text.toList
  others.length ≤ 2 && (first :: others).all isNumber

/-- The pattern that reports quote. -/
def pattern : String := "^(0|[1-9]\\d*)(\\.(0|[1-9]\\d*))\x7b0,2\x7d$"

end PageComposer.Version
