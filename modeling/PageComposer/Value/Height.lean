import PageComposer.Value

/-!
# Height of data

The height of a value is the number of values that stand one in another on its longest
way down, the value itself included.  Copying a value takes two steps for each of them, and
one more at the end of a way for a list or an object that has nothing in it.
-/

namespace PageComposer.Value

mutual

/-- How many values stand one in another. -/
def height : Value → Nat
  | .list items => 1 + heightOfItems items
  | .object fields => 1 + heightOfFields fields
  | _ => 1

def heightOfItems : List Value → Nat
  | [] => 0
  | item :: rest => max (height item) (heightOfItems rest)

def heightOfFields : List (String × Value) → Nat
  | [] => 0
  | (_, value) :: rest => max (height value) (heightOfFields rest)

/-- How many steps are under way at once at most when a value is copied. -/
def copyingSteps : Value → Nat
  | .list items => 2 + copyingStepsOfItems items
  | .object fields => 2 + copyingStepsOfFields fields
  | _ => 2

def copyingStepsOfItems : List Value → Nat
  | [] => 1
  | item :: rest => max (copyingSteps item) (copyingStepsOfItems rest)

def copyingStepsOfFields : List (String × Value) → Nat
  | [] => 1
  | (_, value) :: rest => max (copyingSteps value) (copyingStepsOfFields rest)

end

end PageComposer.Value
