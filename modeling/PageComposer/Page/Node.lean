import PageComposer.Fault
import PageComposer.Page.Violation
import PageComposer.Text.Surrogate

/-!
# Nodes

A node names the plugin that renders it and holds the plugin's params, and may have
a key and a list of child nodes.  `Node.violations` lists everything that keeps a
value from being a node, fields in the order of the declaration and unknown keys
last, and `Node.ofValue?` reads a value that is one.

Both follow a `Node.Reading`.  It tells how many records may stand one in another: a node
for which there is no room is reported as such, and nothing below it is looked at.  It also
tells which characters stand in for surrogates: a record one of whose keys holds one of
these is looked at no further.
-/

namespace PageComposer

/-- A node of a page tree. -/
inductive Node where
  | node (type : String) (key : Option String) (params : Fields)
      (children : Option (List Node))
  deriving Repr

namespace Node

/-- The keys of a node. -/
def keys : List String := ["type", "key", "params", "children"]

/-- How documents are read. -/
structure Reading where
  /-- How many records may stand one in another; no number for no limit. -/
  room : Option Nat
  /-- The characters that stand in for surrogates, if any do. -/
  standIns : Option Text.StandIns
  deriving DecidableEq, Repr

namespace Reading

/-- The reading inside a record, if there is room for the record. -/
def inside? (reading : Reading) : Option Reading :=
  match reading.room with
  | none => some reading
  | some 0 => none
  | some (room + 1) => some { reading with room := some room }

/-- The reading of documents with these characters for surrogates. -/
def ofDocumentsWith (standIns : Option Text.StandIns) : Reading := ⟨some 255, standIns⟩

/-- The reading of documents, in which nothing stands in for anything. -/
def ofDocuments : Reading := ofDocumentsWith none

/-- A text holds a surrogate on its own. -/
def isBroken (reading : Reading) (text : String) : Bool :=
  Text.holdsSurrogate reading.standIns text

end Reading

/-- Some key cannot be read. -/
def hasUnreadableKey (reading : Reading) (fields : Fields) : Bool :=
  fields.any fun entry => reading.isBroken entry.1

/-- What is wrong with a value that has to be a text. -/
def textViolations : Value → List Violation
  | .str _ => []
  | _ => [.here .notText]

def typeViolations (reading : Reading) (fields : Fields) : List Violation :=
  match Fields.get? fields "type" with
  | none => [.here .missing]
  | some (.str text) =>
      if text.isEmpty then [.here .emptyText]
      else if reading.isBroken text then [.here .notUnicode]
      else []
  | some _ => [.here .notText]

def paramsViolations (fields : Fields) : List Violation :=
  match Fields.get? fields "params" with
  | none => [.here .missing]
  | some (.object _) => []
  | some _ => [.here .notObject]

/-- What is wrong with the value under a key whose entry may be left out and is a text
otherwise. -/
def optionalTextViolations (fields : Fields) (key : String) : List Violation :=
  match Fields.get? fields key with
  | none => []
  | some value => (textViolations value).map (.under key)

/-- The keys that a record does not know. -/
def unknownKeys (known : List String) (fields : Fields) : List Violation :=
  ((Fields.keys fields).filter fun key => !known.contains key).map fun key =>
    ⟨[key], .unknownKey⟩

mutual

/-- Everything that keeps a value from being a node. -/
def violations (reading : Reading) : Value → List Violation
  | .object fields =>
      match reading.inside? with
      | none => [.here .tooDeep]
      | some inside =>
          if hasUnreadableKey reading fields then [.here .notUnicode]
          else (typeViolations reading fields).map (.under "type")
            ++ optionalTextViolations fields "key"
            ++ (paramsViolations fields).map (.under "params")
            ++ (childrenViolations inside fields).map (.under "children")
            ++ unknownKeys keys fields
  | _ => [.here (if reading.inside?.isNone then .tooDeep else .notRecord "Node")]

/-- What is wrong with the children among the entries of a node. -/
def childrenViolations (reading : Reading) : List (String × Value) → List Violation
  | [] => []
  | (key, value) :: rest =>
      if key = "children" then
        match value with
        | .list items => itemViolations reading 0 items
        | .null => [.here .nullChildren]
        | _ => [.here .notList]
      else childrenViolations reading rest

/-- What is wrong with the child nodes from an index on. -/
def itemViolations (reading : Reading) (index : Nat) : List Value → List Violation
  | [] => []
  | item :: rest =>
      (violations reading item).map (.under (toString index))
        ++ itemViolations reading (index + 1) rest

end

/-- The text under a key, none when there is no entry. -/
def optionalText? (fields : Fields) (key : String) : Option (Option String) :=
  match Fields.get? fields key with
  | none => some none
  | some (.str text) => some (some text)
  | some _ => none

mutual

/-- The node that a value is. -/
def ofValue? (reading : Reading) : Value → Option Node
  | .object fields => do
      let inside ← reading.inside?
      let .str type ← Fields.get? fields "type" | none
      let key ← optionalText? fields "key"
      let .object params ← Fields.get? fields "params" | none
      let children ← childrenOf? inside fields
      if type.isEmpty || reading.isBroken type || !(unknownKeys keys fields).isEmpty then none
      else some (.node type key params children)
  | _ => none

/-- The child nodes among the entries of a node. -/
def childrenOf? (reading : Reading) : List (String × Value) → Option (Option (List Node))
  | [] => some none
  | (key, value) :: rest =>
      if key = "children" then
        match value with
        | .list items => (itemsOf? reading items).map some
        | _ => none
      else childrenOf? reading rest

def itemsOf? (reading : Reading) : List Value → Option (List Node)
  | [] => some []
  | item :: rest => do
      let child ← ofValue? reading item
      let others ← itemsOf? reading rest
      return child :: others

end

/-- A text or nothing as a value. -/
def optionalValue (text : Option String) : Value := (text.map Value.str).getD .null

mutual

/-- A node with all its four entries, null where it has none. -/
def toValue : Node → Value
  | .node type key params children =>
      .object [("type", .str type), ("key", optionalValue key), ("params", .object params),
        ("children",
          match children with
          | none => .null
          | some children => .list (listToValue children))]

def listToValue : List Node → List Value
  | [] => []
  | child :: rest => child.toValue :: listToValue rest

end

/-- A value that is not a node, with everything that is wrong with it. -/
def invalid (violations : List Violation) : Problem :=
  .invalidDocument "Invalid node" (.list (violations.map Violation.toValue)) .invalidNode

/-- Read a value as a node, in a given way, or report everything that is wrong with it. -/
def validateBy (reading : Reading) (value : Value) : Except Problem Node :=
  match ofValue? reading value with
  | some tree => .ok tree
  | none => .error (invalid (violations reading value))

/-- Read a value as a node, or report everything that is wrong with it. -/
def validate : Value → Except Problem Node := validateBy .ofDocuments

end Node

end PageComposer
