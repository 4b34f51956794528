import PageComposer.Access

/-!
# Feature flags

A node can be tied to a flag by the param `featureFlag`, a flag's name or an object
with a name and a truth value `invert`.  `prune` walks a tree from the top: a node
whose flag check fails goes with everything below it, and a node that stays loses
the param.  Besides the pruned tree it gives the names that were asked, in order.
-/

namespace PageComposer

/-- A flag, and whether a node wants it off. -/
structure Flag where
  name : String
  invert : Bool
  deriving DecidableEq, Repr

namespace Flag

/-- The param that ties a node to a flag. -/
def param : String := "featureFlag"

/-- The flag that a value describes; absent and malformed values describe none. -/
def ofValue? (value : Value) : Option Flag :=
  if !value.truthy then none
  else
    match value with
    | .str name => some ⟨name, false⟩
    | .object fields =>
        match Fields.get? fields "name" with
        | some (.str name) => some ⟨name, (Fields.getD fields "invert").truthy⟩
        | _ => none
    | _ => none

/-- A node tied to this flag stays when the flag's check gives this answer. -/
def admits (flag : Flag) (enabled : Bool) : Bool :=
  if flag.invert then !enabled else enabled

/-- How the state of a flag is found out. -/
abbrev Check := String → Outcome Bool

/-- The params of a node, none where they are not an object. -/
def paramsOf (fields : Fields) : Fields :=
  match Fields.get? fields "params" with
  | some (.object params) => params
  | _ => []

/-- Whether a node with these params stays, and the names asked to find out. -/
def gate (check : Check) (params : Fields) : Outcome (Bool × List String) :=
  match ofValue? (Fields.getD params param) with
  | none => .ok (true, [])
  | some flag => do return (flag.admits (← check flag.name), [flag.name])

/-- A kept node: its params without the flag, and its pruned children if it had any. -/
def keep (fields : Fields) (children : Option (List Value)) : Value :=
  let kept := Fields.insert fields "params" (.object (Fields.erase (paramsOf fields) param))
  match children with
  | none => .object kept
  | some children => .object (Fields.insert kept "children" (.list children))

mutual

/-- The tree without the nodes whose flags are off, nothing if its root goes, and the
names asked. -/
def prune (check : Check) : Value → Outcome (Option Value × List String)
  | .object fields =>
      if fields.isEmpty then .ok (none, [])
      else do
        let (stays, asked) ← gate check (paramsOf fields)
        if stays then
          let (children, later) ← pruneChildren check fields
          return (some (keep fields children), asked ++ later)
        else return (none, asked)
  | value => if value.truthy then .error .notAnObject else .ok (none, [])

/-- The pruned children among the entries of a node, nothing if it has no such entry. -/
def pruneChildren (check : Check) :
    List (String × Value) → Outcome (Option (List Value) × List String)
  | [] => .ok (none, [])
  | (key, value) :: rest =>
      if key = "children" then
        match value with
        | .list items => do
            let (kept, asked) ← pruneItems check items
            return (some kept, asked)
        | .object fields =>
            if (Fields.keys fields).all String.isEmpty then .ok (some [], [])
            else .error .notAnObject
        | .str text => if text.isEmpty then .ok (some [], []) else .error .notAnObject
        | value => if value.truthy then .error .wrongKind else .ok (some [], [])
      else pruneChildren check rest

/-- The nodes of a list that stay. -/
def pruneItems (check : Check) : List Value → Outcome (List Value × List String)
  | [] => .ok ([], [])
  | item :: rest => do
      let (kept, asked) ← prune check item
      let (others, later) ← pruneItems check rest
      return (kept.toList ++ others, asked ++ later)

end

end Flag

end PageComposer
