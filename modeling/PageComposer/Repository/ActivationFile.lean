import PageComposer.Access
import PageComposer.Json.Reader
import PageComposer.Json.Writer

/-!
# The plugin configuration file

A file may say which plugins are active: an object with an entry for each plugin id,
either a truth value or an object whose entry `enabled` counts.  Without a file there
is no restriction.
-/

namespace PageComposer

/-- The text of the file, if there is a file. -/
structure ActivationFile where
  content : Option String
  deriving DecidableEq, Repr

namespace ActivationFile

/-- The fault of a file that cannot be read. -/
def unreadable : Json.ReadError → Fault
  | .malformed _ => .misuse .unreadable
  | .oversized digits => .refusal (.oversizedInteger Json.Limits.greatestDigits digits)
  | .tooDeep => .misuse .tooDeep

/-- What the file holds, null without a file, if it keeps within limits. -/
def loadWithin (limits : Json.Limits) (file : ActivationFile) : Outcome Value :=
  match file.content with
  | none => .ok .null
  | some text => (Json.readWithin limits text).mapError unreadable

/-- An entry leaves its plugin active; one that does not count does. -/
def isEnabled : Value → Outcome Bool
  | .bool flag => .ok flag
  | .object fields => .ok ((Fields.get? fields "enabled").getD (.bool true)).truthy
  | entry => if entry.truthy then .error .notAnObject else .ok true

/-- The ids of the entries that leave their plugin active, in order. -/
def enabledIds : Fields → Outcome (List String)
  | [] => .ok []
  | (id, entry) :: rest => do
      let enabled ← isEnabled entry
      let others ← enabledIds rest
      return if enabled then id :: others else others

/-- How many steps of work are under way when a file is read. -/
def steps : Nat := 18

/-- What the file holds, null without a file. -/
def load : ActivationFile → Outcome Value := loadWithin (.under steps)

/-- The ids that are active in a file that keeps within limits, null when there is no
restriction. -/
def listWithin (limits : Json.Limits) (file : ActivationFile) : Outcome Value := do
  match ← file.loadWithin limits with
  | .null => return .null
  | config => return .list ((← enabledIds (← config.entries)).map .str)

/-- The ids that are active, null when there is no restriction; one step more is under way
than when a file is just read. -/
def listActive : ActivationFile → Outcome Value := listWithin (.under (steps + 1))

/-- The file with another configuration written to it. -/
def save (config : Value) : ActivationFile := ⟨some (Json.indented config)⟩

end ActivationFile

end PageComposer
