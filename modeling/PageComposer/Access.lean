import PageComposer.Fault

/-!
# Taking values apart

Pages and requests arrive unchecked, so many operations take a value apart without
knowing its kind.  These functions do so and fail with the fault that names what is
wrong with the value.
-/

namespace PageComposer.Value

/-- The entries of an object. -/
def entries : Value → Outcome Fields
  | .object fields => .ok fields
  | _ => .error .notAnObject

/-- The value under a key of an object, null when there is none. -/
def lookup (value : Value) (key : String) : Outcome Value := do
  return Fields.getD (← value.entries) key

/-- The members that a walk over a value meets: items, keys or characters. -/
def members : Value → Outcome (List Value)
  | .list items => .ok items
  | .object fields => .ok (fields.map fun field => .str field.1)
  | .str text => .ok (text.toList.map fun char => .str char.toString)
  | _ => .error .wrongKind

/-- A text; no other value has the operations of one. -/
def text : Value → Outcome String
  | .str text => .ok text
  | _ => .error .notAnObject

/-- A value that can serve as a key. -/
def asKey (value : Value) : Outcome Unit :=
  if value.canBeKey then .ok () else .error (.misuse (.notAKey value.kind))

end PageComposer.Value
