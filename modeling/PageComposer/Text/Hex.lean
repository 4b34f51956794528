/-!
# Base sixteen

Numbers are written in base sixteen with small letters, and read with letters of either
case.
-/

namespace PageComposer.Text

/-- The digit of a number below sixteen, in small letters. -/
def hexDigit (number : Nat) : Char :=
  if number < 10 then Char.ofNat (48 + number) else Char.ofNat (87 + number)

/-- The last `width` digits of a number in base sixteen. -/
def hexDigits (width number : Nat) : List Char :=
  match width with
  | 0 => []
  | width + 1 => hexDigits width (number / 16) ++ [hexDigit (number % 16)]

/-- The number that a digit writes. -/
def hexValue? (char : Char) : Option Nat :=
  if '0' ≤ char && char ≤ '9' then some (char.toNat - 48)
  else if 'a' ≤ char && char ≤ 'f' then some (char.toNat - 87)
  else if 'A' ≤ char && char ≤ 'F' then some (char.toNat - 55)
  else none

/-- The number that digits write after those of a number before them. -/
def hexNumber? (before : Nat) : List Char → Option Nat
  | [] => some before
  | char :: rest => do hexNumber? (before * 16 + (← hexValue? char)) rest

/-- The number that four digits write. -/
def hexValue4? (a b c d : Char) : Option Nat := hexNumber? 0 [a, b, c, d]

end PageComposer.Text
