import PageComposer.Text.Blank
import PageComposer.Text.DecimalDigit

/-!
# Written numbers

People write numbers with the digits of any script, with single underscores between digits
and blanks around them.  `integerWithin` reads an integer of not too many digits, and
`isDecimal` tells whether a text writes a number that may have a fraction and an exponent.
-/

namespace PageComposer.Text

/-- A character of a number in ASCII: a digit, a blank, or a mark that no number has. -/
def plainChar (char : Char) : Char :=
  if char.toNat < 0x7F then char
  else if isBlank char then ' '
  else
    match digitValue? char with
    | some value => Char.ofNat (48 + value)
    | none => '?'

/-- The blanks that may stand around a number. -/
def isNumberBlank (char : Char) : Bool := char = ' ' || '\t' ≤ char && char ≤ '\r'

/-- Whether a minus stands before a number, and what follows the sign, if there is one. -/
def signed : List Char → Bool × List Char
  | '-' :: rest => (true, rest)
  | '+' :: rest => (false, rest)
  | rest => (false, rest)

/-- The digits at the head of a text, and what follows them; none if an underscore among
them does not stand between two digits. -/
def digitRun? (chars : List Char) : Option (List Char × List Char) :=
  let run := chars.takeWhile fun char => char.isDigit || char = '_'
  let (first, others) := cut '_' run
  if run.isEmpty then some ([], chars)
  else if (first :: others).all fun digits => !digits.isEmpty then
    some ((first :: others).flatten, chars.drop run.length)
  else none

/-- Why a text is no integer. -/
inductive Misread where
  | malformed
  /-- It has so many digits, which are too many. -/
  | oversized (digits : Nat)
  deriving DecidableEq, Repr

/-- The integer that a text writes with at most so many digits. -/
def integerWithin (limit : Nat) (text : String) : Except Misread Int :=
  let (negative, unsigned) := signed ((text.toList.map plainChar).dropWhile isNumberBlank)
  match digitRun? unsigned with
  | none | some ([], _) => .error .malformed
  | some (digits, rest) =>
      if limit < digits.length then .error (.oversized digits.length)
      else if !rest.all isNumberBlank then .error .malformed
      else
        let size : Int := digits.foldl (fun number digit => number * 10 + (digit.toNat - 48)) 0
        .ok (if negative then -size else size)

/-- The words that stand for numbers. -/
def numberWords : List String := ["inf", "infinity", "nan"]

/-- An exponent or nothing. -/
def isExponentPart : List Char → Bool
  | [] => true
  | mark :: rest =>
      (mark = 'e' || mark = 'E') &&
        match digitRun? (signed rest).2 with
        | some (_ :: _, []) => true
        | _ => false

/-- A number without a sign. -/
def isUnsignedDecimal (chars : List Char) : Bool :=
  match digitRun? chars with
  | none => false
  | some (whole, '.' :: rest) =>
      match digitRun? rest with
      | none => false
      | some (fraction, rest) =>
          !(whole.isEmpty && fraction.isEmpty) && isExponentPart rest
  | some (whole, rest) => !whole.isEmpty && isExponentPart rest

/-- A text writes a number. -/
def isDecimal (text : String) : Bool :=
  let chars := (text.toList.map plainChar).dropWhile isNumberBlank
  let chars := (chars.reverse.dropWhile isNumberBlank).reverse
  let (_, unsigned) := signed chars
  numberWords.contains (String.ofList (unsigned.map Char.toLower)) || isUnsignedDecimal unsigned

end PageComposer.Text
