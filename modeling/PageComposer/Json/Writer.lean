import PageComposer.Decimal.Layout
import PageComposer.Text.Quoted
import PageComposer.Value

/-!
# Writing JSON

`compact` puts no blanks between the tokens; `indented` gives every entry a line of
its own, two spaces deeper than its list or object, and writes an empty one as a
bare pair of brackets.  Only the quote, the backslash and control characters are
escaped.
-/

namespace PageComposer.Json

/-- One character of a JSON text. -/
def escapeChar (char : Char) : List Char :=
  if char = '"' || char = '\\' then ['\\', char]
  else if char = '\n' then ['\\', 'n']
  else if char = '\r' then ['\\', 'r']
  else if char = '\t' then ['\\', 't']
  else if char = '\x08' then ['\\', 'b']
  else if char = '\x0c' then ['\\', 'f']
  else if char.toNat < 0x20 then '\\' :: 'u' :: Text.hexDigits 4 char.toNat
  else [char]

/-- A text in double quotes. -/
def writeText (text : String) : String :=
  String.ofList ('"' :: (text.toList.flatMap escapeChar ++ ['"']))

/-- A value that holds no others. -/
def writeScalar : Value → String
  | .null => "null"
  | .bool true => "true"
  | .bool false => "false"
  | .int value => toString value
  | .float value => Decimal.Layout.data.write value
  | .str text => writeText text
  | .list _ => "[]"
  | .object _ => "\x7b\x7d"

mutual

/-- A value without blanks. -/
def compact : Value → String
  | .list items => "[" ++ compactItems items ++ "]"
  | .object fields => "\x7b" ++ compactFields fields ++ "\x7d"
  | scalar => writeScalar scalar

def compactItems : List Value → String
  | [] => ""
  | [item] => compact item
  | item :: next :: rest => compact item ++ "," ++ compactItems (next :: rest)

def compactFields : List (String × Value) → String
  | [] => ""
  | [(key, value)] => writeText key ++ ":" ++ compact value
  | (key, value) :: next :: rest =>
      writeText key ++ ":" ++ compact value ++ "," ++ compactFields (next :: rest)

end

/-- A line break and the blanks of a depth. -/
def lineBreak (depth : Nat) : String :=
  String.ofList ('\n' :: List.replicate (2 * depth) ' ')

mutual

/-- A value with its entries on lines of their own. -/
def indentedAt (depth : Nat) : Value → String
  | .list (item :: rest) =>
      "[" ++ indentedItems (depth + 1) (item :: rest) ++ lineBreak depth ++ "]"
  | .object (field :: rest) =>
      "\x7b" ++ indentedFields (depth + 1) (field :: rest) ++ lineBreak depth ++ "\x7d"
  | scalar => writeScalar scalar

def indentedItems (depth : Nat) : List Value → String
  | [] => ""
  | [item] => lineBreak depth ++ indentedAt depth item
  | item :: next :: rest =>
      lineBreak depth ++ indentedAt depth item ++ "," ++ indentedItems depth (next :: rest)

def indentedFields (depth : Nat) : List (String × Value) → String
  | [] => ""
  | [(key, value)] => lineBreak depth ++ writeText key ++ ": " ++ indentedAt depth value
  | (key, value) :: next :: rest =>
      lineBreak depth ++ writeText key ++ ": " ++ indentedAt depth value ++ ","
        ++ indentedFields depth (next :: rest)

end

/-- A value as a file shows it. -/
def indented (value : Value) : String := indentedAt 0 value

end PageComposer.Json
