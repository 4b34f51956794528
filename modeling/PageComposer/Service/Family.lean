import PageComposer.Service.Registration

/-!
# Containers

A container keeps registrations and the instances that are to live on.  A scope
starts with a copy of the registrations of the container it is made from and has
caches of its own; a singleton that it inherits from the root is resolved on the
root, so all scopes share it.

The root and all scopes form a `Family`, together with the world that recipes act
on.  `Family.resolve` follows dependencies to a depth that no resolution exceeds:
each creation in progress is of another service, and a service that is needed while
it is being created is a circular dependency.
-/

namespace PageComposer.Service

/-- A container of a family, by its number; zero is the root. -/
abbrev Handle := Nat

/-- The root of every family. -/
abbrev Handle.root : Handle := 0

/-- Entries under keys, in the order in which the keys came in. -/
abbrev Table (Entry : Type) := List (Key × Entry)

namespace Table

variable {Entry : Type}

def get? (table : Table Entry) (key : Key) : Option Entry :=
  match table with
  | [] => none
  | (name, entry) :: rest => if name = key then some entry else get? rest key

/-- Write an entry: in its place if the key is there, else at the end. -/
def insert (table : Table Entry) (key : Key) (entry : Entry) : Table Entry :=
  match table with
  | [] => [(key, entry)]
  | (name, old) :: rest =>
      if name = key then (name, entry) :: rest else (name, old) :: insert rest key entry

/-- After a write the key has the written entry, and every other key what it had. -/
theorem get?_insert (table : Table Entry) (key other : Key) (entry : Entry) :
    get? (insert table key entry) other =
      if key = other then some entry else get? table other := by
  induction table with
  | nil => by_cases same : key = other <;> simp [insert, get?, same]
  | cons row rest induction =>
      obtain ⟨name, old⟩ := row
      by_cases found : name = key
      · subst found
        by_cases same : name = other <;> simp [insert, get?, same]
      · by_cases same : name = other
        · subst same
          simp [insert, get?, found, Ne.symm found]
        · simp [insert, get?, found, same, induction]

end Table

/-- A container. -/
structure Container (World Instance : Type) where
  registrations : Table (Registration World Instance)
  singletons : Table Instance
  perScope : Table Instance
  /-- What is being created, the innermost last. -/
  creating : List Identifier

namespace Container

variable {World Instance : Type}

def empty : Container World Instance := ⟨[], [], [], []⟩

/-- The registration under an identifier; nothing is under one without a key. -/
def find? (container : Container World Instance) (id : Identifier) :
    Option (Registration World Instance) :=
  id.key.bind (Table.get? container.registrations)

end Container

/-- A root container and its scopes, with the world around them. -/
structure Family (World Instance : Type) where
  world : World
  container : Handle → Container World Instance
  /-- How many containers there are. -/
  size : Nat
  /-- The serial of the next registration. -/
  nextSerial : Nat

namespace Family

variable {World Instance : Type}

/-- A family of an empty root. -/
def start (world : World) : Family World Instance :=
  ⟨world, fun _ => .empty, 1, 0⟩

/-- Change one container. -/
def modify (family : Family World Instance) (handle : Handle)
    (change : Container World Instance → Container World Instance) : Family World Instance :=
  { family with container := fun other =>
      if other = handle then change (family.container handle) else family.container other }

/-- Nothing can be registered under an identifier without a key. -/
def keyOf (id : Identifier) : Outcome Key :=
  match id.key with
  | some key => .ok key
  | none => .error .wrongKind

/-- Register a service, in place of any that is registered under the identifier. -/
def register (family : Family World Instance) (handle : Handle) (id : Identifier)
    (factory : Factory World Instance) (lifetime : Lifetime) (metadata : Fields) :
    Outcome (Family World Instance) := do
  let key ← keyOf id
  let registration := ⟨factory, lifetime, metadata, family.nextSerial⟩
  return { family.modify handle fun container =>
      { container with
        registrations := Table.insert container.registrations key registration } with
    nextSerial := family.nextSerial + 1 }

def isRegistered (family : Family World Instance) (handle : Handle) (id : Identifier) : Bool :=
  ((family.container handle).find? id).isSome

/-- The metadata of a service, null when it is not registered. -/
def metadata (family : Family World Instance) (handle : Handle) (id : Identifier) :
    Outcome Value := do
  let _ ← keyOf id
  return (((family.container handle).find? id).map fun found => .object found.metadata).getD .null

/-- A registration of a scope that came from the root and is still the root's. -/
def inherits (family : Family World Instance) (handle : Handle) (id : Identifier)
    (registration : Registration World Instance) : Bool :=
  handle != Handle.root &&
    ((family.container Handle.root).find? id).map Registration.serial == some registration.serial

/-- The instance that is kept of a service with a lifetime. -/
def kept? (family : Family World Instance) (handle : Handle) (lifetime : Lifetime) (key : Key) :
    Option Instance :=
  match lifetime with
  | .transient => none
  | .singleton => Table.get? (family.container handle).singletons key
  | .perScope =>
      if handle = Handle.root then none else Table.get? (family.container handle).perScope key

/-- Keep an instance as long as the lifetime says; there are no scoped instances
outside of scopes. -/
def keep (family : Family World Instance) (handle : Handle) (lifetime : Lifetime) (key : Key)
    (made : Instance) : Family World Instance :=
  match lifetime with
  | .transient => family
  | .singleton => family.modify handle fun container =>
      { container with singletons := Table.insert container.singletons key made }
  | .perScope =>
      if handle = Handle.root then family
      else family.modify handle fun container =>
        { container with perScope := Table.insert container.perScope key made }

/-- A service is being created. -/
def enter (family : Family World Instance) (handle : Handle) (id : Identifier) :
    Family World Instance :=
  family.modify handle fun container =>
    { container with creating := container.creating ++ [id] }

/-- The innermost creation has come to its end. -/
def leave (family : Family World Instance) (handle : Handle) : Family World Instance :=
  family.modify handle fun container =>
    { container with creating := container.creating.dropLast }

/-- Run a recipe with a container; `resolve` resolves what it needs. -/
def cook (handle : Handle)
    (resolve : Identifier → Family World Instance → Outcome Instance × Family World Instance) :
    Recipe World Instance → Family World Instance → Outcome Instance × Family World Instance
  | .give made, family => (.ok made, family)
  | .fail fault, family => (.error fault, family)
  | .read rest, family => cook handle resolve (rest family.world) family
  | .write world rest, family => cook handle resolve rest { family with world := world }
  | .known id rest, family => cook handle resolve (rest (family.isRegistered handle id)) family
  | .need id rest, family =>
      let (outcome, after) := resolve id family
      cook handle resolve (rest outcome) after

/-- The fault of a service that is needed for its own creation. -/
def circular (creating : List Identifier) (id : Identifier) : Fault :=
  .problem (.circularDependency id.text ((creating ++ [id]).map Identifier.text))

/-- Resolve a service, following dependencies to a given depth. -/
def resolveAt : Nat → Handle → Identifier → Family World Instance →
    Outcome Instance × Family World Instance
  | 0, _, _, family => (.error (.misuse .tooDeep), family)
  | depth + 1, handle, id, family =>
      match id.key with
      | none => (.error .wrongKind, family)
      | some key =>
          match (family.container handle).find? id with
          | none => (.error (.problem (.serviceNotRegistered id.text)), family)
          | some registration =>
              if registration.lifetime = .singleton && family.inherits handle id registration then
                resolveAt depth Handle.root id family
              else
                let creating := (family.container handle).creating
                if creating.any fun other => other.key = some key then
                  (.error (circular creating id), family)
                else
                  match family.kept? handle registration.lifetime key with
                  | some made => (.ok made, family)
                  | none =>
                      let (outcome, cooked) := cook handle (resolveAt depth handle)
                        registration.factory.create (family.enter handle id)
                      let after := cooked.leave handle
                      match outcome with
                      | .ok made => (.ok made, after.keep handle registration.lifetime key made)
                      | .error fault => (.error fault, after)

/-- A depth that is enough for every resolution that starts on a container. -/
def depth (family : Family World Instance) (handle : Handle) : Nat :=
  (family.container handle).registrations.length
    + (family.container Handle.root).registrations.length + 2

/-- Resolve a service on a container. -/
def resolve (family : Family World Instance) (handle : Handle) (id : Identifier) :
    Outcome Instance × Family World Instance :=
  resolveAt (family.depth handle) handle id family

/-- Resolve a service that has to be there: its instance with the family after it. -/
def obtain (family : Family World Instance) (handle : Handle) (id : Identifier) :
    Outcome (Instance × Family World Instance) := do
  let (outcome, after) := family.resolve handle id
  return (← outcome, after)

/-- Make a scope from a container: the same registrations, nothing kept. -/
def createScope (family : Family World Instance) (handle : Handle) :
    Handle × Family World Instance :=
  let scope : Container World Instance :=
    ⟨(family.container handle).registrations, [], [], []⟩
  (family.size, { family.modify family.size fun _ => scope with size := family.size + 1 })

/-- Dispose of kept singletons in order, each by the disposer of what is registered under
its key now; a disposer that fails stops nothing.  Failing is all that a disposer can do here
but come to its end: one that is cancelled, or that ends the program as a whole, would stop the
disposal too, and is left out. -/
def release (container : Container World Instance) : Table Instance → World → World
  | [], world => world
  | (key, made) :: rest, world =>
      match Table.get? container.registrations key with
      | none => release container rest world
      | some registration =>
          release container rest (registration.factory.dispose made world).2

/-- Dispose of the singletons that a container keeps, and keep nothing any more. -/
def dispose (family : Family World Instance) (handle : Handle) : Family World Instance :=
  let container := family.container handle
  { family.modify handle fun container =>
      { container with singletons := [], perScope := [], creating := [] } with
    world := release container container.singletons family.world }

end Family

end PageComposer.Service
