import PageComposer.Text.Blank
import PageComposer.Text.Percent

/-!
# Form data

A query is a list of pairs between ampersands.  In names and values a plus sign stands for
a blank, and a percent sign with two digits of base sixteen for a byte.
-/

namespace PageComposer.Http

/-- Decode a name or a value of a form. -/
def formDecode (text : String) : String :=
  Text.percentDecoded (text.map fun char => if char = '+' then ' ' else char)

/-- The pairs of a query in order; what has no sign between name and value is a name. -/
def formPairs (query : String) : List (String × String) :=
  ((Text.pieces '&' query).filter fun piece => !piece.isEmpty).map fun piece =>
    let (name, value) := Text.partition '=' piece
    (formDecode name, formDecode (value.getD ""))

end PageComposer.Http
