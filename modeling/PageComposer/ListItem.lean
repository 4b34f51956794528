import PageComposer.Access
import PageComposer.Json.Writer

/-!
# List items

The text of an item of a list: null is no text, truth values are spelt out, whole
doubles lose their fraction.  An object that has the key of the list shows the value
under it; any other object or list shows as compact JSON.
-/

namespace PageComposer.ListItem

/-- The value under the list's key, if there is a key and the item has it. -/
def keyed? (fields : Fields) (key : Value) : Outcome (Option Value) :=
  if !key.truthy then .ok none
  else
    match key with
    | .str key => .ok (Fields.get? fields key)
    | key => do key.asKey; return none

/-- The text of an item. -/
def text (key : Value) : Value → Outcome String
  | .null => .ok ""
  | .bool value => .ok (if value then "true" else "false")
  | .int value => .ok (toString value)
  | .float value =>
      match value.toInt? with
      | some whole => .ok (toString whole)
      | none => .ok (Value.float value).display
  | .str text => .ok text
  | .list items => .ok (Json.compact (.list items))
  | .object fields => do
      match ← keyed? fields key with
      | some .null => return ""
      | some value => return value.display
      | none => return Json.compact (.object fields)

end PageComposer.ListItem
