import PageComposer.Access
import PageComposer.Plugin
import PageComposer.Program
import PageComposer.Schema.Validator
import PageComposer.Text.Blank

/-!
# The registry

A registry holds plugins under their ids in the order of registration, the validators
for their params, the allowlist, and the subscriptions of listeners.  An operation that
changes the registry is a program over it, with its checks and writes in their order,
and gives the event that tells of the change.  What it wrote before it fails stays
written.
-/

namespace PageComposer

/-- A plugin that has been accepted under an id. -/
structure Registration where
  id : String
  plugin : Plugin
  metadata : Metadata

/-- A change of a registry. -/
inductive Event where
  | registered (id : String)
  | unregistered (id : String)
  /-- The new allowlist in the order it was given; none when all ids are allowed. -/
  | allowlistChanged (ids : Option (List String))
  deriving DecidableEq, Repr

namespace Event

/-- The name that listeners subscribe to. -/
def name : Event → String
  | registered _ => "register"
  | unregistered _ => "unregister"
  | allowlistChanged _ => "allowlistChanged"

/-- What listeners are told. -/
def payload : Event → Value
  | registered id | unregistered id => .object [("id", .str id)]
  | allowlistChanged none => .object [("allowlist", .null)]
  | allowlistChanged (some ids) => .object [("allowlist", .list (ids.map .str))]

end Event

/-- A listener of the events of one name. -/
structure Subscription where
  event : String
  listener : String
  deriving DecidableEq, Repr

/-- The subscription of a listener to what is told under a value.  Events are told under
texts; under another value there is nothing to hear, if it can be a key at all. -/
def Subscription.under (event : Value) (listener : String) : Outcome (Option Subscription) := do
  event.asKey
  match event with
  | .str name => return some ⟨name, listener⟩
  | _ => return none

structure Registry where
  /-- What compiles the schemas that are not familiar. -/
  library : Schema.Library
  registrations : List Registration
  /-- The validators of the plugins that have a schema. -/
  validators : List (String × Validator)
  /-- The ids a renderer may use, each once; none when all are allowed. -/
  allowlist : Option (List String)
  subscriptions : List Subscription

namespace Registry

def new (library : Schema.Library) : Registry := ⟨library, [], [], none, []⟩

def empty : Registry := new .none

/-- The ids in the order of registration. -/
def types (registry : Registry) : List String := registry.registrations.map Registration.id

def find? (registry : Registry) (id : String) : Option Registration :=
  registry.registrations.find? fun registration => registration.id = id

/-- The registration under a value as id; only a text can be one. -/
def lookup (registry : Registry) (id : Value) : Outcome (Option Registration) :=
  match id with
  | .str id => .ok (registry.find? id)
  | id => do id.asKey; return none

def has (registry : Registry) (id : Value) : Outcome Bool := do
  return (← registry.lookup id).isSome

def refused (message : String) (code : ErrorCode) (details : Value) : Fault :=
  .problem (.registry message code details)

/-- The metadata that a registration ends up with. -/
def metadataFor (id : String) (plugin : Plugin) (given : MetadataArgument) :
    Outcome Metadata := do
  let draft ←
    match given with
    | .absent => Except.ok (plugin.metadata.getD (.named (.str id)))
    | .entries fields =>
        match (MetadataDraft.unknown fields).mergeSort fun left right => left ≤ right with
        | [] => .ok (.fill (.str id) fields)
        | names => .error (Metadata.refused
            ("Unknown plugin metadata fields: " ++ String.intercalate ", " names))
    | .draft draft => .ok draft
    | .other => .error (Metadata.refused "Plugin metadata must be a mapping")
  Metadata.ofDraft draft

/-- No dialect can be looked up in these values: numbers hold nothing, and a text or a
list that has the key has nothing under it. -/
def hidesDialect : Value → Bool
  | .int _ | .float _ => true
  | .str text => Text.contains text Schema.dialectKey
  | .list items => items.contains (.str Schema.dialectKey)
  | _ => false

/-- What the schema of a plugin is compiled to; a value that does not count is no schema. -/
def compile (library : Schema.Library) (id : String) (schema : Value) :
    Outcome (Option Validator) :=
  if !schema.truthy then .ok none
  else if hidesDialect schema then .error .wrongKind
  else do
    match ← Validator.ofValue? library schema with
    | some validator => return some validator
    | none => .error (refused ("Invalid params schema for plugin " ++ id) .pluginInvalid
        (.object [("id", .str id)]))

/-- The ids of an allowlist, each once; none for null, which allows everything. -/
def allowedIds? : Value → Outcome (Option (List String))
  | .null => .ok none
  | .list items =>
      if items.any fun item => !item.canBeKey then .error .wrongKind
      else
        match Schema.texts? items with
        | some ids => .ok (some ids.eraseDups)
        | none => .error (refused "Allowlist ids must be strings" .allowlistInvalid .null)
  | _ => .error (refused "Allowlist must be a list of ids or None" .allowlistInvalid .null)

/-! ### Changes -/

/-- A program that changes a registry. -/
abbrev Update := Program Registry

namespace Update

/-- The id of a plugin, which has to be a text that nothing is registered under. -/
def freshId (plugin : Plugin) : Update String := do
  match plugin.id with
  | .str id =>
      if id.isEmpty then throw (refused "Invalid plugin: missing id" .pluginInvalid .null)
      else if ((← get).find? id).isSome then
        throw (refused ("Plugin already registered: " ++ id) .pluginDuplicate
          (.object [("id", .str id)]))
      else return id
  | _ => throw (refused "Invalid plugin: missing id" .pluginInvalid .null)

def enter (registration : Registration) : Update Unit :=
  modify fun registry =>
    { registry with registrations := registry.registrations ++ [registration] }

/-- Keep a validator for the params of a plugin, if it has one. -/
def keep (id : String) : Option Validator → Update Unit
  | some validator => modify fun registry =>
      { registry with validators := registry.validators ++ [(id, validator)] }
  | none => return ()

/-- Accept a plugin under its id.  Nothing is written before all of it is checked. -/
def register (plugin : Plugin) (given : MetadataArgument) : Update Event := do
  let id ← freshId plugin
  let metadata ← metadataFor id plugin given
  let validator ← compile (← get).library id plugin.schema
  enter ⟨id, plugin, metadata⟩
  keep id validator
  return .registered id

def remove (id : String) : Update Unit :=
  modify fun registry =>
    { registry with registrations := registry.registrations.filter fun other => other.id ≠ id }

def forget (id : String) : Update Unit :=
  modify fun registry =>
    { registry with validators := registry.validators.filter fun entry => entry.1 ≠ id }

/-- Take back a plugin, with its schema. -/
def unregister (id : Value) : Update Event := do
  match ← (← get).lookup id with
  | some registration =>
      remove registration.id
      forget registration.id
      return .unregistered registration.id
  | none => throw (refused ("Plugin not registered: " ++ id.display) .pluginNotRegistered
      (.object [("id", id)]))

def allow (allowed : Option (List String)) : Update Unit :=
  modify fun registry => { registry with allowlist := allowed }

/-- Replace the allowlist as a whole. -/
def setAllowlist (ids : Value) : Update Event := do
  let allowed ← allowedIds? ids
  allow allowed
  return .allowlistChanged allowed

/-- The registry that an update leads to, and what it gives, if it does not fail. -/
def result {Result : Type} (update : Update Result) (registry : Registry) :
    Outcome (Registry × Result) :=
  match update.answer registry with
  | (.ok result, changed) => .ok (changed, result)
  | (.error fault, _) => .error fault

end Update

def register (registry : Registry) (plugin : Plugin) (given : MetadataArgument) :
    Outcome (Registry × Event) := (Update.register plugin given).result registry

def unregister (registry : Registry) (id : Value) : Outcome (Registry × Event) :=
  (Update.unregister id).result registry

def setAllowlist (registry : Registry) (ids : Value) : Outcome (Registry × Event) :=
  (Update.setAllowlist ids).result registry

def subscribe (registry : Registry) (subscription : Subscription) : Registry :=
  { registry with subscriptions := registry.subscriptions ++ [subscription] }

/-- Take back the earliest subscription of a listener to an event. -/
def unsubscribe (registry : Registry) (subscription : Subscription) : Registry :=
  { registry with subscriptions := registry.subscriptions.erase subscription }

/-- A renderer may use an id. -/
def isAllowed (registry : Registry) (id : Value) : Outcome Bool :=
  match registry.allowlist, id with
  | none, _ => .ok true
  | some ids, .str id => .ok (ids.contains id)
  | some _, id => do id.asKey; return false

/-- The listeners of an event, in the order of subscription. -/
def listeners (registry : Registry) (event : Event) : List String :=
  (registry.subscriptions.filter fun subscription => subscription.event = event.name).map
    Subscription.listener

/-- The ids of a category. -/
def byCategory (registry : Registry) (category : Value) : List String :=
  (registry.registrations.filter fun registration =>
    category = .str registration.metadata.category).map Registration.id

/-- What a search looks through. -/
def searched (metadata : Metadata) : List Value :=
  .str metadata.name :: metadata.description.orElse (.str "") :: metadata.tags

/-- A registration with a text in its name, description or tags, in whatever case. -/
def Matches (query : String) (registration : Registration) : Bool :=
  (searched registration.metadata).any fun value =>
    Text.contains (Text.lower value.display) (Text.lower query)

/-- The ids that match a query, in the order of registration. -/
def search (registry : Registry) (query : String) : List String :=
  (registry.registrations.filter (Matches query)).map Registration.id

/-- What the params of a type are checked with. -/
def validator? (registry : Registry) (id : String) : Option Validator :=
  (registry.validators.find? fun entry => entry.1 = id).map Prod.snd

/-- Check the params of a node; without a schema all pass. -/
def validateParams (registry : Registry) (id params : Value) : Outcome Unit :=
  match id with
  | .str id =>
      match registry.validator? id with
      | none => .ok ()
      | some validator => do
          match ← validator.report params with
          | [] => return ()
          | findings => .error (refused ("Invalid params for plugin " ++ id)
              .pluginInvalidParams (.list (findings.map Finding.toValue)))
  | id => id.asKey

end Registry

end PageComposer
