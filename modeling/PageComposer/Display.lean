import PageComposer.Decimal.Layout
import PageComposer.Text.Quoted
import PageComposer.Value

/-!
# Values in messages

`Value.display` is the text that stands for a value in a message or in markup: a
text stands for itself.  Inside a list or an object, and wherever a message names
a value as such, texts are quoted; that form is `Value.quoted`.
-/

namespace PageComposer.Value

mutual

/-- A value with every text in it in quotes. -/
def quoted : Value → String
  | .null => "None"
  | .bool true => "True"
  | .bool false => "False"
  | .int value => toString value
  | .float value => Decimal.Layout.display.write value
  | .str text => Text.quoted text
  | .list items => "[" ++ quotedItems items ++ "]"
  | .object fields => "\x7b" ++ quotedFields fields ++ "\x7d"

def quotedItems : List Value → String
  | [] => ""
  | [item] => item.quoted
  | item :: next :: rest => item.quoted ++ ", " ++ quotedItems (next :: rest)

def quotedFields : List (String × Value) → String
  | [] => ""
  | [(key, value)] => Text.quoted key ++ ": " ++ value.quoted
  | (key, value) :: next :: rest =>
      Text.quoted key ++ ": " ++ value.quoted ++ ", " ++ quotedFields (next :: rest)

end

/-- The text of a value. -/
def display : Value → String
  | .str text => text
  | value => value.quoted

end PageComposer.Value
