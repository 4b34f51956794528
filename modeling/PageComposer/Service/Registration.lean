import PageComposer.Access
import PageComposer.Service.Identifier
import PageComposer.Value.Keyed

/-!
# Registrations

A registration says how the instances of a service are made, how long one is kept,
and how it is disposed of.  An instance is made by a recipe, a program that resolves
other services from the container it is handed, may look at the world and change
it, and ends with an instance or a fault.

`Recipe.inject` is the recipe of a class: each parameter is resolved by its name,
else by its annotation, else left to its default.
-/

namespace PageComposer.Service

/-- How long an instance is kept. -/
inductive Lifetime where
  /-- Not at all. -/
  | transient
  /-- Until the container that registered it is disposed of. -/
  | singleton
  /-- Until the scope it was resolved on is disposed of. -/
  | perScope
  deriving DecidableEq, Repr

def Lifetime.text : Lifetime → String
  | transient => "transient"
  | singleton => "singleton"
  | perScope => "scoped"

/-- The lifetime that a value names. -/
def Lifetime.ofValue (value : Value) : Outcome Lifetime :=
  match [transient, singleton, perScope].find? fun lifetime => value = .str lifetime.text with
  | some lifetime => .ok lifetime
  | none => .error (.refusal (.unknownLifetime value))

/-- How an instance is made. -/
inductive Recipe (World Instance : Type) where
  | give (made : Instance)
  | fail (fault : Fault)
  | read (rest : World → Recipe World Instance)
  | write (world : World) (rest : Recipe World Instance)
  /-- Ask whether something is registered. -/
  | known (id : Identifier) (rest : Bool → Recipe World Instance)
  /-- Resolve a service; what the recipe does about a failure is its own matter. -/
  | need (id : Identifier) (rest : Outcome Instance → Recipe World Instance)

namespace Recipe

variable {World Instance : Type}

/-- Resolve a service and fail if that fails. -/
def require (id : Identifier) (rest : Instance → Recipe World Instance) :
    Recipe World Instance :=
  .need id fun
    | .ok found => rest found
    | .error fault => .fail fault

/-- Resolve services in order. -/
def requireAll (rest : List Instance → Recipe World Instance) :
    List Identifier → Recipe World Instance
  | [] => rest []
  | id :: ids => require id fun found => requireAll (fun others => rest (found :: others)) ids

end Recipe

/-- A parameter of a class. -/
structure Parameter where
  name : String
  annotation : Option Identifier
  hasDefault : Bool
  deriving DecidableEq, Repr

namespace Recipe

variable {World Instance : Type}

/-- The fault of a parameter that nothing can be injected for. -/
def unresolved (className : String) (parameter : Parameter) : Fault :=
  .problem (.serviceNotRegistered (parameter.name ++ " (required by " ++ className ++ ")"))

/-- Resolve a parameter by its annotation, or leave it to its default. -/
def byAnnotation (className : String) (parameter : Parameter)
    (rest : Option Instance → Recipe World Instance) : Recipe World Instance :=
  let absent := if parameter.hasDefault then rest none else .fail (unresolved className parameter)
  match parameter.annotation with
  | none => absent
  | some id => .known id fun known => if known then require id (rest ∘ some) else absent

/-- Resolve a parameter. -/
def argument (className : String) (parameter : Parameter)
    (rest : Option Instance → Recipe World Instance) : Recipe World Instance :=
  let id := Identifier.ofText parameter.name
  .known id fun known =>
    if known then require id (rest ∘ some) else byAnnotation className parameter rest

/-- Resolve the parameters of a class in order and build it from those that were
found. -/
def inject (className : String) (build : List (String × Instance) → Recipe World Instance) :
    List Parameter → Recipe World Instance
  | [] => build []
  | parameter :: rest => argument className parameter fun found =>
      inject className (fun others =>
        build ((found.map fun value => (parameter.name, value)).toList ++ others)) rest

end Recipe

/-- How instances of a service are made and disposed of. -/
structure Factory (World Instance : Type) where
  create : Recipe World Instance
  dispose : Instance → World → Outcome Unit × World

/-- A factory whose instances need no disposal. -/
def Factory.ofRecipe {World Instance : Type} (create : Recipe World Instance) :
    Factory World Instance :=
  ⟨create, fun _ world => (.ok (), world)⟩

namespace Metadata

/-- The entry that an item of a collection is; it has two members, a key and a value. -/
def entryOf (index : Nat) (item : Value) : Outcome (Value × Value) := do
  match ← item.members with
  | [key, value] => do
      key.asKey
      return (key, value)
  | members => .error (.refusal (.notAPair index members.length))

/-- Write the entries that items from an index on are. -/
def ofItems (read : Keyed) (index : Nat) : List Value → Outcome Keyed
  | [] => .ok read
  | item :: rest => do
      let (key, value) ← entryOf index item
      ofItems (read.insert key value) (index + 1) rest

/-- The metadata that a value is: an object, or a collection of keys with values, which are
shown by their texts; none instead of a value that does not count. -/
def ofValue (value : Value) : Outcome Fields :=
  if !value.truthy then .ok []
  else
    match value with
    | .object fields => .ok fields
    | value => do return (← ofItems [] 0 (← value.members)).byText

end Metadata

/-- A service as it is registered. -/
structure Registration (World Instance : Type) where
  factory : Factory World Instance
  lifetime : Lifetime
  metadata : Fields
  /-- Tells this registration from every other, and is copied with it to scopes. -/
  serial : Nat

end PageComposer.Service
