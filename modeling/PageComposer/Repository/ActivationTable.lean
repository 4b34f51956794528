import PageComposer.Access
import PageComposer.Repository.Column
import PageComposer.Value.Equality

/-!
# The table of plugins

A table with a row for each plugin that says whether it is active.  No rows, no
active plugin.
-/

namespace PageComposer

/-- Plugin ids, each once, and whether they are active. -/
structure ActivationTable where
  rows : List (String × Bool)
  deriving DecidableEq, Repr

namespace ActivationTable

def empty : ActivationTable := ⟨[]⟩

def name : String := "plugin_definitions"

/-- What the table is asked for the active ids. -/
def listQuestion : String :=
  "SELECT plugin_definitions.id \nFROM plugin_definitions \n"
    ++ "WHERE plugin_definitions.active IS 1 ORDER BY plugin_definitions.id"

/-- What the table is asked for the row of an id. -/
def rowQuestion : String :=
  "SELECT plugin_definitions.id AS plugin_definitions_id, "
    ++ "plugin_definitions.active AS plugin_definitions_active, "
    ++ "plugin_definitions.description AS plugin_definitions_description, "
    ++ "plugin_definitions.created_at AS plugin_definitions_created_at \n"
    ++ "FROM plugin_definitions \nWHERE plugin_definitions.id = ?"

/-- The fault of one who asks before the table is made. -/
def unmade (question : String) (parameters : List Value) : Fault :=
  .denial (.noTable name question parameters)

/-- The truth value that a value stands for, none for null: one and zero stand for one
as well. -/
def flag? (value : Value) : Outcome (Option Bool) :=
  if value.looselySame (.bool true) then .ok (some true)
  else if value.looselySame (.bool false) then .ok (some false)
  else if value = .null then .ok none
  else .error (.denial .unfit)

/-- The id that a row is looked up by; a list or an object has to hold one and nothing
else. -/
def wantedId (id : Value) : Outcome Value := do
  let id ←
    match id with
    | .list [id] | .object [("id", id)] => Except.ok id
    | .list _ | .object _ => .error (.denial .wrongKey)
    | id => .ok id
  id.asKey
  return id

/-- There is a row of an id. -/
def has (table : ActivationTable) (id : String) : Bool := table.rows.any fun row => row.1 = id

/-- Write the row of an id. -/
def write (table : ActivationTable) (id : String) (active : Bool) : ActivationTable :=
  if table.has id then
    ⟨table.rows.map fun row => if row.1 = id then (id, active) else row⟩
  else ⟨table.rows ++ [(id, active)]⟩

/-- Say whether a plugin is active.  A new row is active unless the opposite is said, and
its id cannot be a list or an object; a row that is there needs to be told. -/
def setActive (table : ActivationTable) (id active : Value) : Outcome ActivationTable := do
  let key ← Column.text? (← wantedId id)
  if !key.any table.has then id.asKey
  let flag ← flag? active
  match key with
  | none => .error (.denial .required)
  | some key =>
      if table.has key then
        match flag with
        | none => .error (.denial .required)
        | some flag => return table.write key flag
      else return table.write key (flag.getD true)

/-- The active ids, in the order of their characters. -/
def listActive (table : ActivationTable) : List String :=
  ((table.rows.filter Prod.snd).map Prod.fst).mergeSort fun left right => left ≤ right

end ActivationTable

end PageComposer
