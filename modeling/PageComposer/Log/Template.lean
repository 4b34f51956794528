import PageComposer.Access
import PageComposer.Decimal.Rounded

/-!
# Message templates

A template is a text in which a percent sign starts a directive, which is replaced
by the next argument, or by the one under a name when the arguments are an object.
A directive may have a name, flags, a width, a precision and a size mark, and ends
with the letter of a conversion; an asterisk takes a width or a precision from the
arguments.  Two percent signs stand for one.

The template is filled from the left, so of several faults the first one counts.
-/

namespace PageComposer.Log

/-- A directive of a template. -/
structure Directive where
  alternate : Bool
  leftAligned : Bool
  spaced : Bool
  signed : Bool
  zeroFilled : Bool
  width : Nat
  precision : Option Nat
  conversion : Char
  deriving DecidableEq, Repr

namespace Directive

/-- A directive without anything special. -/
def plain : Directive := ⟨false, false, false, false, false, 0, none, 's'⟩

/-- Set the flag of a character, if it is one. -/
def flag? (directive : Directive) (char : Char) : Option Directive :=
  match char with
  | '#' => some { directive with alternate := true }
  | '-' => some { directive with leftAligned := true }
  | ' ' => some { directive with spaced := true }
  | '+' => some { directive with signed := true }
  | '0' => some { directive with zeroFilled := true }
  | _ => none

end Directive

/-- A directive that cannot be read, or whose conversion is not known; the number counts
the characters before the conversion. -/
inductive TemplateError where
  | incomplete
  | incompleteName
  | unsupported (conversion : Char) (index : Nat)
  | widthTooBig
  | precisionTooBig
  /-- A not-a-number is no integer. -/
  | notANumber
  deriving DecidableEq, Repr

namespace TemplateError

def message : TemplateError → String
  | incomplete => "incomplete format"
  | incompleteName => "incomplete format key"
  | unsupported conversion index =>
      let shown := if 31 ≤ conversion.toNat && conversion.toNat ≤ 126 then conversion else '?'
      "unsupported format character '" ++ shown.toString ++ "' (0x"
        ++ String.ofList (Nat.toDigits 16 conversion.toNat) ++ ") at index " ++ toString index
  | widthTooBig => "width too big"
  | precisionTooBig => "precision too big"
  | notANumber => "cannot convert float NaN to integer"

/-- The error as a fault. -/
def fault (error : TemplateError) : Fault := .refusal (.template error.message)

end TemplateError

def digit? (char : Char) : Option Nat :=
  if '0' ≤ char && char ≤ '9' then some (char.toNat - 48) else none

/-- A number in three parts: sign, mark of the base, digits. -/
structure Figure where
  sign : String
  mark : String
  digits : String
  deriving DecidableEq, Repr

namespace Directive

def fill (count : Nat) (char : Char) : String := String.ofList (List.replicate count char)

/-- A text of more characters does not fit into memory. -/
def greatestWidth : Nat := 16777216

/-- A text brought to the width of a directive. -/
def pad (directive : Directive) (text : String) : String :=
  let missing := fill (directive.width - text.length) ' '
  if directive.leftAligned then text ++ missing else missing ++ text

/-- A number brought to the width of a directive; zeros go between mark and digits. -/
def padFigure (directive : Directive) (figure : Figure) : String :=
  let head := figure.sign ++ figure.mark
  if directive.zeroFilled && !directive.leftAligned then
    head ++ fill (directive.width - (head ++ figure.digits).length) '0' ++ figure.digits
  else directive.pad (head ++ figure.digits)

def sign (directive : Directive) (negative : Bool) : String :=
  if negative then "-" else if directive.signed then "+" else if directive.spaced then " " else ""

/-- An integer in a base.  The count of its digits, with a mark and a sign, is a word. -/
def integer (directive : Directive) (base : Nat) (mark : String) (value : Int) :
    Outcome String :=
  let digits := String.ofList (Nat.toDigits base value.natAbs)
  let wanted := directive.precision.getD 0
  if Int32.maxValue.toInt < wanted + 3 then .error (.misuse .tooLarge)
  else if greatestWidth < wanted then .error (.misuse .outOfMemory)
  else .ok (directive.padFigure {
    sign := directive.sign (value < 0)
    mark := if directive.alternate then mark else ""
    digits := fill (wanted - digits.length) '0' ++ digits })

/-- The digits of a number with a point before the last `places` of them; the point
goes with the last place unless it is wanted. -/
def pointed (directive : Directive) (digits : String) (places : Nat) : String :=
  let digits := fill (places + 1 - digits.length) '0' ++ digits
  let whole := String.ofList (digits.toList.take (digits.length - places))
  let fraction := String.ofList (digits.toList.drop (digits.length - places))
  whole ++ (if places = 0 && !directive.alternate then "" else "." ++ fraction)

/-- The absolute value of a finite double with a fixed number of places. -/
def fixed (directive : Directive) (places : Nat) (value : Binary64) : String :=
  let units := Binary64.roundHalfEven (value.magnitude * Nat.pow 10 places) Binary64.one
  directive.pointed (toString units) places

/-- An exponent with its sign and at least two digits. -/
def exponentText (exponent : Int) : String :=
  let digits := toString exponent.natAbs
  "e" ++ (if exponent < 0 then "-" else "+") ++ fill (2 - digits.length) '0' ++ digits

/-- The places behind one digit.  The digits are counted in a word, and when the count runs
over, one digit is left. -/
def placesBehind (places : Nat) : Nat := if places < Int32.maxValue.toInt then places else 0

/-- The absolute value of a finite double with one digit before the point. -/
def scientific (directive : Directive) (places : Nat) (value : Binary64) : String :=
  let places := placesBehind places
  let decimal := Decimal.rounded places value
  directive.pointed (toString decimal.digits) places
    ++ exponentText (decimal.exponent + places)

/-- A text of digits with a point, without zeros at its end and without a bare point. -/
def trimmed (text : String) : String :=
  let kept := text.toList.reverse.dropWhile (· = '0')
  String.ofList (kept.dropWhile (· = '.')).reverse

/-- No double has more digits than this. -/
def mostDigits : Nat := 1100

/-- The absolute value of a finite double with so many digits, in whichever of the two
forms suits its size; digits that no double has are zeros, which an alternate form keeps. -/
def general (directive : Directive) (count : Nat) (value : Binary64) : String :=
  let count := if directive.alternate then count else min count mostDigits
  let places := count - 1
  let decimal := Decimal.rounded places value
  let exponent := decimal.exponent + places
  let short (text : String) := if directive.alternate || !text.contains '.' then text
    else trimmed text
  if -4 ≤ exponent && exponent < count then
    short (directive.fixed (places - exponent).toNat value)
  else
    short (directive.pointed (toString decimal.digits) places) ++ exponentText exponent

/-- How many digits a finite double is written with at least, for a precision. -/
def leastDigits (directive : Directive) (precision : Nat) : Nat :=
  match directive.conversion with
  | 'e' | 'E' => placesBehind precision
  | 'g' | 'G' => if directive.alternate then precision else 0
  | _ => precision

/-- A double under a directive, in small letters. -/
def real (directive : Directive) (value : Binary64) : Outcome String :=
  if value.isFinite then
    let precision := directive.precision.getD 6
    if greatestWidth < directive.leastDigits precision then .error (.misuse .outOfMemory)
    else
      let digits :=
        match directive.conversion with
        | 'e' | 'E' => directive.scientific precision value
        | 'g' | 'G' => directive.general (max precision 1) value
        | _ => directive.fixed precision value
      .ok (directive.padFigure ⟨directive.sign value.negative, "", digits⟩)
  else
    .ok (directive.padFigure ⟨directive.sign (value.negative && !value.isNaN), "",
      if value.isNaN then "nan" else "inf"⟩)

def upperAscii (text : String) : String := String.ofList (text.toList.map Char.toUpper)

/-- A text with every character outside ASCII escaped. -/
def asciiOnly (text : String) : String :=
  String.ofList (text.toList.flatMap fun char =>
    if char.toNat < 0x80 then [char]
    else if char.toNat < 0x100 then '\\' :: 'x' :: Text.hexDigits 2 char.toNat
    else if char.toNat < 0x10000 then '\\' :: 'u' :: Text.hexDigits 4 char.toNat
    else '\\' :: 'U' :: Text.hexDigits 8 char.toNat)

/-- The integer that a number is cut to. -/
def cut : Value → Outcome Int
  | .bool flag => .ok (if flag then 1 else 0)
  | .int value => .ok value
  | .float value =>
      if value.isNaN then .error TemplateError.notANumber.fault
      else if value.isInfinite then .error (.misuse .tooLarge)
      else
        let whole : Int := (value.magnitude / Binary64.one : Nat)
        .ok (if value.negative then -whole else whole)
  | _ => .error .wrongKind

/-- An integer, which no double stands in for. -/
def exact : Value → Outcome Int
  | .bool flag => .ok (if flag then 1 else 0)
  | .int value => .ok value
  | _ => .error .wrongKind

/-- The double that a number is. -/
def double : Value → Outcome Binary64
  | .bool flag => .ok (Binary64.nearest false (if flag then 1 else 0) 1)
  | .int value =>
      match Binary64.ofInt? value with
      | some double => .ok double
      | none => .error (.misuse .tooLarge)
  | .float value => .ok value
  | _ => .error .wrongKind

/-- A character, or the one with a given number. -/
def character : Value → Outcome String
  | .str text => if text.length = 1 then .ok text else .error .wrongKind
  | value => do
      let code ← exact value
      if code < 0 || code ≥ 0x110000 then .error (.misuse .tooLarge)
      else return (Char.ofNat code.toNat).toString

/-- The text of an argument under a directive whose conversion stands at an index. -/
def writeFitting (directive : Directive) (index : Nat) (value : Value) : Outcome String :=
  let limited (text : String) : String :=
    match directive.precision with
    | some limit => String.ofList (text.toList.take limit)
    | none => text
  match directive.conversion with
  | 's' => .ok (directive.pad (limited value.display))
  | 'r' => .ok (directive.pad (limited value.quoted))
  | 'a' => .ok (directive.pad (limited (asciiOnly value.quoted)))
  | 'd' | 'i' | 'u' => do directive.integer 10 "" (← cut value)
  | 'x' => do directive.integer 16 "0x" (← exact value)
  | 'X' => do return upperAscii (← directive.integer 16 "0x" (← exact value))
  | 'o' => do directive.integer 8 "0o" (← exact value)
  | 'c' => do return directive.pad (← character value)
  | 'e' | 'f' | 'g' => do directive.real (← double value)
  | 'E' | 'F' | 'G' => do return upperAscii (← directive.real (← double value))
  | conversion => .error (TemplateError.unsupported conversion index).fault

/-- The text of an argument, unless it gets too wide. -/
def write (directive : Directive) (index : Nat) (value : Value) : Outcome String :=
  if directive.width ≤ greatestWidth then directive.writeFitting index value
  else do
    let _ ← { directive with width := 0 }.writeFitting index value
    .error (.misuse .outOfMemory)

end Directive

/-- The arguments of a template. -/
inductive Arguments where
  | inOrder (values : List Value)
  /-- An object, whose entries directives name; without a name it stands for itself. -/
  | named (fields : Fields)
  /-- A list that stands for itself; it has no names, and it need not be used up. -/
  | whole (items : List Value)
  deriving DecidableEq, Repr

namespace Arguments

/-- No arguments at all. -/
def none : Arguments := inOrder []

/-- The arguments that a value is; one that does not count is none. -/
def ofValue (value : Value) : Arguments :=
  if !value.truthy then none
  else
    match value with
    | .object fields => named fields
    | .list items => whole items
    | value => inOrder [value]

/-- The arguments that values are; a single object that is not empty gives names. -/
def ofValues : List Value → Arguments
  | [.object (field :: rest)] => named (field :: rest)
  | values => inOrder values

end Arguments

/-- Where names are looked up. -/
inductive Directory where
  | none
  | entries (fields : Fields)
  /-- Names can be asked for, but there are none. -/
  | blank
  deriving DecidableEq, Repr

/-- The arguments that are still to be used. -/
structure Supply where
  left : List Value
  directory : Directory
  deriving DecidableEq, Repr

namespace Supply

def of : Arguments → Supply
  | .inOrder values => ⟨values, .none⟩
  | .named fields => ⟨[.object fields], .entries fields⟩
  | .whole items => ⟨[.list items], .blank⟩

/-- Take the next argument. -/
def next (supply : Supply) : Outcome (Value × Supply) :=
  match supply.left with
  | value :: rest => .ok (value, { supply with left := rest })
  | [] => .error .wrongKind

/-- Put the argument under a name in place of all that are left. -/
def under (supply : Supply) (name : String) : Outcome Supply :=
  match supply.directory with
  | .none | .blank => .error .wrongKind
  | .entries fields =>
      match Fields.get? fields name with
      | some value => .ok { supply with left := [value] }
      | none => .error (.misuse .missingKey)

/-- Take a width or a precision, which has to lie between two bounds. -/
def nextCount (supply : Supply) (least greatest : Int) : Outcome (Int × Supply) := do
  let (value, rest) ← supply.next
  let count ← Directive.exact value
  if least ≤ count ∧ count ≤ greatest then return (count, rest) else .error (.misuse .tooLarge)

/-- Arguments in order have to be used up. -/
def finish (supply : Supply) : Outcome String :=
  if supply.directory = .none && !supply.left.isEmpty then .error .wrongKind else .ok ""

end Supply

/-- Where the reader of a directive stands. -/
inductive Stage where
  | start
  /-- In a name, at a depth of brackets; the characters so far, the last first. -/
  | name (depth : Nat) (read : List Char)
  | flags
  | width
  | afterWidth
  | point
  | precision
  | afterPrecision
  | sizeMark
  deriving DecidableEq, Repr

namespace Stage

/-- A width can start here. -/
def admitsFlags : Stage → Bool
  | start | flags => true
  | _ => false

/-- A point can stand here. -/
def admitsPoint : Stage → Bool
  | start | flags | width | afterWidth => true
  | _ => false

end Stage

/-- What a character that is not part of a name does to a directive: go on at another
stage, or end the directive with its conversion. -/
inductive Advance where
  | goOn (directive : Directive) (supply : Supply) (stage : Stage)
  | convert

/-- The width with one digit more. -/
def widen (directive : Directive) (supply : Supply) (digit : Nat) : Outcome Advance :=
  let width := directive.width * 10 + digit
  if width < Int64.size / 2 then .ok (.goOn { directive with width } supply .width)
  else .error TemplateError.widthTooBig.fault

/-- The precision with one digit more. -/
def refine (directive : Directive) (supply : Supply) (digit : Nat) : Outcome Advance :=
  let precision := directive.precision.getD 0 * 10 + digit
  if precision < Int32.size / 2 then
    .ok (.goOn { directive with precision := some precision } supply .precision)
  else .error TemplateError.precisionTooBig.fault

/-- A width out of the arguments; a negative one aligns to the left, and the least has no
opposite that counts. -/
def takeWidth (directive : Directive) (supply : Supply) : Outcome Advance := do
  let (count, rest) ← supply.nextCount Int64.minValue.toInt Int64.maxValue.toInt
  return .goOn { directive with
    leftAligned := directive.leftAligned || count < 0
    width := if count = Int64.minValue.toInt then 0 else count.natAbs } rest .afterWidth

/-- A precision out of the arguments; a negative one is zero. -/
def takePrecision (directive : Directive) (supply : Supply) : Outcome Advance := do
  let (count, rest) ← supply.nextCount Int32.minValue.toInt Int32.maxValue.toInt
  return .goOn { directive with precision := some count.toNat } rest .afterPrecision

/-- What a character does to a directive at a stage. -/
def advance (directive : Directive) (supply : Supply) (stage : Stage) (char : Char) :
    Outcome Advance :=
  match directive.flag? char, digit? char with
  | some flagged, digit =>
      if stage.admitsFlags then .ok (.goOn flagged supply .flags) else
        match stage, digit with
        | .width, some digit => widen directive supply digit
        | .point, some digit | .precision, some digit => refine directive supply digit
        | _, _ => .ok .convert
  | none, some digit =>
      match stage with
      | .start | .flags | .width => widen directive supply digit
      | .point | .precision => refine directive supply digit
      | _ => .ok .convert
  | none, none =>
      if char = '*' && stage.admitsFlags then takeWidth directive supply
      else if char = '*' && stage = .point then takePrecision directive supply
      else if char = '.' && stage.admitsPoint then
        .ok (.goOn { directive with precision := some 0 } supply .point)
      else if ['h', 'l', 'L'].contains char && stage ≠ .sizeMark then
        .ok (.goOn directive supply .sizeMark)
      else .ok .convert

mutual

/-- Fill in a template from a position on. -/
def fillFrom (index : Nat) (supply : Supply) : List Char → Outcome String
  | [] => supply.finish
  | '%' :: '%' :: rest => do return "%" ++ (← fillFrom (index + 2) supply rest)
  | char :: rest =>
      if char = '%' then directiveFrom (index + 1) supply .plain .start rest
      else do return char.toString ++ (← fillFrom (index + 1) supply rest)

/-- Fill in a template from within a directive on. -/
def directiveFrom (index : Nat) (supply : Supply) (directive : Directive) (stage : Stage) :
    List Char → Outcome String
  | [] =>
      match stage with
      | .name .. => .error TemplateError.incompleteName.fault
      | _ => .error TemplateError.incomplete.fault
  | char :: rest =>
      match stage with
      | .name depth read =>
          if char = ')' && depth = 0 then do
            let supply ← supply.under (String.ofList read.reverse)
            directiveFrom (index + 1) supply directive .flags rest
          else
            let depth := if char = '(' then depth + 1 else if char = ')' then depth - 1 else depth
            directiveFrom (index + 1) supply directive (.name depth (char :: read)) rest
      | stage =>
          if char = '(' && stage = .start then
            if supply.directory = .none then .error .wrongKind
            else directiveFrom (index + 1) supply directive (.name 0 []) rest
          else do
            match ← advance directive supply stage char with
            | .goOn directive supply stage => directiveFrom (index + 1) supply directive stage rest
            | .convert =>
                let (value, left) ← supply.next
                let text ← { directive with conversion := char }.write index value
                return text ++ (← fillFrom (index + 1) left rest)

end

/-- A template with its arguments filled in. -/
def fill (template : String) (arguments : Arguments) : Outcome String :=
  fillFrom 0 (.of arguments) template.toList

end PageComposer.Log
