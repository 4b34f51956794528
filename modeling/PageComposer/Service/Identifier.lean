import PageComposer.Display

/-!
# Service identifiers

A service is registered under a text, a number, null or a class.  Numbers that stand
for the same value are the same identifier, whatever their kind; a text never is the
same as a number.  Lists and objects can be asked for, but nothing is ever
registered under them.
-/

namespace PageComposer.Service

/-- What makes two identifiers the same. -/
inductive Key where
  | nothing
  | text (text : String)
  | whole (value : Int)
  | fraction (value : Binary64)
  | type (name : String)
  deriving DecidableEq, Repr

/-- An identifier as it was asked for. -/
structure Identifier where
  /-- What messages call it. -/
  text : String
  /-- None for what nothing can be registered under. -/
  key : Option Key
  deriving DecidableEq, Repr

/-- The key that a value is. -/
def Key.ofValue? : Value → Option Key
  | .null => some .nothing
  | .bool flag => some (.whole (if flag then 1 else 0))
  | .int value => some (.whole value)
  | .float value =>
      match value.toInt? with
      | some integer => some (.whole integer)
      | none => some (.fraction value)
  | .str content => some (.text content)
  | .list _ | .object _ => none

def Identifier.ofValue (value : Value) : Identifier := ⟨value.display, Key.ofValue? value⟩

/-- The identifier that a text is. -/
def Identifier.ofText (text : String) : Identifier := ⟨text, some (.text text)⟩

/-- A class, by its name. -/
def Identifier.type (name : String) : Identifier := ⟨name, some (.type name)⟩

end PageComposer.Service
