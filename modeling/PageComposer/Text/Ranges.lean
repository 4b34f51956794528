/-!
# Character tables

A set of characters is given by its runs of code points, in ascending order and
with both ends included.
-/

namespace PageComposer.Text

/-- The character lies in one of the runs. -/
def inRanges : List (Nat × Nat) → Char → Bool
  | [], _ => false
  | (first, last) :: rest, char =>
      if char.toNat < first then false
      else char.toNat ≤ last || inRanges rest char

end PageComposer.Text
