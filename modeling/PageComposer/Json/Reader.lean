import PageComposer.Text.Surrogate
import PageComposer.Value

/-!
# Reading JSON

`readWithin` turns a text into a value.  Besides the JSON grammar it takes the words
`NaN`, `Infinity` and `-Infinity`, keeps integers of any size exactly, and lets the
last of several equal keys count, in the place of the first.  A refused text is
reported with the offset of the character at which it cannot go on.

What comes from outside is read within `Limits`: integers of too many digits are
refused, and so are lists and objects that nest too deep.
-/

namespace PageComposer.Json

/-- What a reader puts up with. -/
structure Limits where
  /-- The most digits of an integer. -/
  digits : Nat
  /-- How many lists and objects may stand one in another. -/
  depth : Nat
  deriving DecidableEq, Repr

namespace Limits

/-- The most digits of an integer from outside. -/
def greatestDigits : Nat := 4300

/-- How many steps of work may be under way at once when a list or an object is read. -/
def greatestSteps : Nat := 996

/-- The limits for a text from outside that is read when so many steps of work are already
under way. -/
def under (steps : Nat) : Limits := ⟨greatestDigits, greatestSteps - steps⟩

/-- The limits inside a list or an object, if it may stand here. -/
def inside? (limits : Limits) : Option Limits :=
  match limits.depth with
  | 0 => none
  | depth + 1 => some { limits with depth }

end Limits

/-- Why a text is refused. -/
inductive ReadError where
  /-- The text breaks the grammar at this character. -/
  | malformed (offset : Nat)
  /-- An integer has so many digits, which are too many. -/
  | oversized (digits : Nat)
  /-- Lists and objects nest too deep. -/
  | tooDeep
  deriving DecidableEq, Repr

/-- What a reading step found: the result, and where the rest of the text starts. -/
structure Found (Result : Type) where
  result : Result
  offset : Nat
  rest : List Char

def isSpace (char : Char) : Bool :=
  char = ' ' || char = '\t' || char = '\n' || char = '\r'

/-- Step over blanks. -/
def skipSpace (offset : Nat) : List Char → Nat × List Char
  | [] => (offset, [])
  | char :: rest =>
      if isSpace char then skipSpace (offset + 1) rest else (offset, char :: rest)

def isDigit (char : Char) : Bool := '0' ≤ char && char ≤ '9'

/-- The character that a letter after a backslash stands for. -/
def escaped? (char : Char) : Option Char :=
  match char with
  | '"' => some '"'
  | '\\' => some '\\'
  | '/' => some '/'
  | 'b' => some '\x08'
  | 'f' => some '\x0c'
  | 'n' => some '\n'
  | 'r' => some '\r'
  | 't' => some '\t'
  | _ => none

private def Found.prepend (char : Char) (found : Found (List Char)) : Found (List Char) :=
  { found with result := char :: found.result }

/-- Read what follows a backslash and a `u` that stands at `offset`: the character,
and how many characters write it.  Two surrogates that make a pair are read as one, and
for a surrogate on its own a character stands in. -/
def codeFrom (standIns : Text.StandIns) (offset : Nat) :
    List Char → Except ReadError (Char × Nat)
  | a :: b :: c :: d :: next :: rest =>
      match Text.hexValue4? a b c d with
      | none => .error (.malformed offset)
      | some high =>
          match Text.isHighSurrogate high, next :: rest with
          | true, '\\' :: 'u' :: e :: f :: g :: h :: _ :: _ =>
              match Text.hexValue4? e f g h with
              | none => .error (.malformed (offset + 6))
              | some low =>
                  if Text.isLowSurrogate low then .ok (Text.charOfPair high low, 10)
                  else .ok (standIns.charOf high, 4)
          | _, _ => .ok (standIns.charOf high, 4)
  | _ => .error (.malformed offset)

/-- Read to the closing quote of a text whose opening quote stood at `start`. -/
def textFrom (standIns : Text.StandIns) (start offset : Nat) (chars : List Char) :
    Except ReadError (Found (List Char)) :=
  match chars with
  | [] => .error (.malformed start)
  | '"' :: rest => .ok ⟨[], offset + 1, rest⟩
  | ['\\'] => .error (.malformed start)
  | '\\' :: 'u' :: rest =>
      match codeFrom standIns (offset + 1) rest with
      | .error error => .error error
      | .ok (char, used) =>
          (textFrom standIns start (offset + 2 + used) (rest.drop used)).map (Found.prepend char)
  | '\\' :: char :: rest =>
      match escaped? char with
      | none => .error (.malformed offset)
      | some char => (textFrom standIns start (offset + 2) rest).map (Found.prepend char)
  | char :: rest =>
      if char.toNat < 0x20 then .error (.malformed offset)
      else (textFrom standIns start (offset + 1) rest).map (Found.prepend char)
termination_by chars.length

/-- The number that a run of digits writes. -/
def natOfDigits (digits : List Char) : Nat :=
  digits.foldl (fun number digit => number * 10 + (digit.toNat - 48)) 0

/-- The exponent part at the head of a text, if there is one: its value and what
follows it. -/
def exponentPart? : List Char → Option (Int × List Char)
  | [] => none
  | mark :: rest =>
      if mark = 'e' || mark = 'E' then
        let (negative, unsigned) :=
          match rest with
          | '-' :: unsigned => (true, unsigned)
          | '+' :: unsigned => (false, unsigned)
          | unsigned => (false, unsigned)
        let digits := unsigned.takeWhile isDigit
        if digits.isEmpty then none
        else
          let size : Int := natOfDigits digits
          some (if negative then -size else size, unsigned.dropWhile isDigit)
      else none

/-- The fraction part at the head of a text: its digits and what follows it. -/
def fractionPart? : List Char → Option (List Char × List Char)
  | '.' :: rest =>
      let digits := rest.takeWhile isDigit
      if digits.isEmpty then none else some (digits, rest.dropWhile isDigit)
  | _ => none

/-- The whole part at the head of a text: a zero, or digits that start with none. -/
def wholePart? : List Char → Option (List Char × List Char)
  | '0' :: rest => some (['0'], rest)
  | chars =>
      let digits := chars.takeWhile isDigit
      if digits.isEmpty then none else some (digits, chars.dropWhile isDigit)

/-- The integer that digits write, if there are not too many of them. -/
def integerOf (limits : Limits) (negative : Bool) (digits : List Char) :
    Except ReadError Value :=
  if limits.digits < digits.length then .error (.oversized digits.length)
  else
    let size : Int := natOfDigits digits
    .ok (.int (if negative then -size else size))

/-- Read a number.  It is a double exactly when it has a fraction or an exponent. -/
def numberFrom (limits : Limits) (offset : Nat) (chars : List Char) :
    Except ReadError (Found Value) := do
  let (negative, unsigned) :=
    match chars with
    | '-' :: unsigned => (true, unsigned)
    | unsigned => (false, unsigned)
  match wholePart? unsigned with
  | none => throw (.malformed offset)
  | some (whole, rest) =>
      let (fraction?, rest) :=
        match fractionPart? rest with
        | some (digits, rest) => (some digits, rest)
        | none => (none, rest)
      let (exponent?, rest) :=
        match exponentPart? rest with
        | some (exponent, rest) => (some exponent, rest)
        | none => (none, rest)
      let value ←
        if fraction?.isNone && exponent?.isNone then integerOf limits negative whole
        else
          let fraction := fraction?.getD []
          let exponent := exponent?.getD 0 - (fraction.length : Int)
          .ok (.float (.ofDecimal negative (natOfDigits (whole ++ fraction)) exponent))
      return ⟨value, offset + (chars.length - rest.length), rest⟩

/-- The words that stand for values, with what they stand for. -/
def words : List (List Char × Value) := [
  ("null".toList, .null), ("true".toList, .bool true), ("false".toList, .bool false),
  ("NaN".toList, .float .nan), ("Infinity".toList, .float (.infinity false)),
  ("-Infinity".toList, .float (.infinity true))]

/-- Read a word or a number. -/
def scalarFrom (limits : Limits) (offset : Nat) (chars : List Char) :
    Except ReadError (Found Value) :=
  match words.find? fun word => word.1.isPrefixOf chars with
  | some (word, value) => .ok ⟨value, offset + word.length, chars.drop word.length⟩
  | none => numberFrom limits offset chars

mutual

/-- Read a value; `steps` bounds the number of steps. -/
def valueFrom (limits : Limits) (standIns : Text.StandIns) (steps offset : Nat)
    (chars : List Char) : Except ReadError (Found Value) :=
  match steps, chars with
  | 0, _ | _, [] => .error (.malformed offset)
  | _ + 1, '"' :: rest =>
      (textFrom standIns offset (offset + 1) rest).map fun found =>
        ⟨.str (String.ofList found.result), found.offset, found.rest⟩
  | steps + 1, '[' :: rest =>
      match limits.inside? with
      | none => .error .tooDeep
      | some limits =>
          match skipSpace (offset + 1) rest with
          | (offset, ']' :: rest) => .ok ⟨.list [], offset + 1, rest⟩
          | (offset, rest) =>
              (itemsFrom limits standIns steps offset rest).map fun found =>
                ⟨.list found.result, found.offset, found.rest⟩
  | steps + 1, '\x7b' :: rest =>
      match limits.inside? with
      | none => .error .tooDeep
      | some limits =>
          match skipSpace (offset + 1) rest with
          | (offset, '\x7d' :: rest) => .ok ⟨.object [], offset + 1, rest⟩
          | (offset, rest) =>
              (fieldsFrom limits standIns steps [] offset rest).map fun found =>
                ⟨.object found.result, found.offset, found.rest⟩
  | _ + 1, chars => scalarFrom limits offset chars

/-- Read the items of a list up to its closing bracket. -/
def itemsFrom (limits : Limits) (standIns : Text.StandIns) (steps offset : Nat)
    (chars : List Char) : Except ReadError (Found (List Value)) :=
  match steps with
  | 0 => .error (.malformed offset)
  | steps + 1 => do
      let first ← valueFrom limits standIns steps offset chars
      match skipSpace first.offset first.rest with
      | (offset, ']' :: rest) => return ⟨[first.result], offset + 1, rest⟩
      | (offset, ',' :: rest) =>
          let (offset, rest) := skipSpace (offset + 1) rest
          let others ← itemsFrom limits standIns steps offset rest
          return { others with result := first.result :: others.result }
      | (offset, _) => throw (.malformed offset)

/-- Read the entries of an object up to its closing bracket, after those read. -/
def fieldsFrom (limits : Limits) (standIns : Text.StandIns) (steps : Nat) (read : Fields)
    (offset : Nat) (chars : List Char) : Except ReadError (Found Fields) :=
  match steps, chars with
  | steps + 1, '"' :: rest => do
      let key ← textFrom standIns offset (offset + 1) rest
      match skipSpace key.offset key.rest with
      | (offset, ':' :: rest) =>
          let (offset, rest) := skipSpace (offset + 1) rest
          let value ← valueFrom limits standIns steps offset rest
          let read := Fields.insert read (String.ofList key.result) value.result
          match skipSpace value.offset value.rest with
          | (offset, '\x7d' :: rest) => return ⟨read, offset + 1, rest⟩
          | (offset, ',' :: rest) =>
              let (offset, rest) := skipSpace (offset + 1) rest
              fieldsFrom limits standIns steps read offset rest
          | (offset, _) => throw (.malformed offset)
      | (offset, _) => throw (.malformed offset)
  | _, _ => .error (.malformed offset)

end

/-- Read the characters of a whole text as one value within limits. -/
def readChars (limits : Limits) (standIns : Text.StandIns) (chars : List Char) :
    Except ReadError Value :=
  match chars with
  | '\ufeff' :: _ => .error (.malformed 0)
  | chars => do
      let (offset, rest) := skipSpace 0 chars
      let found ← valueFrom limits standIns (2 * chars.length + 2) offset rest
      match skipSpace found.offset found.rest with
      | (_, []) => return found.result
      | (offset, _) => throw (.malformed offset)

/-- Read a whole text as one value within limits. -/
def readWithin (limits : Limits) (text : String) : Except ReadError Value :=
  readChars limits (.forText text.toList) text.toList

end PageComposer.Json
