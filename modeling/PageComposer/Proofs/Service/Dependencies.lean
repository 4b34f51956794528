import PageComposer.Proofs.Service.Depth
import Mathlib.Logic.Relation

/-!
# Dependencies of services

A service is made from a provider: a plain value, services that are resolved in order, or a
class whose parameters are injected.  `Provider.needs` lists what a provider asks for, and
`Provider.asks` says that its recipe asks for this, in this order, and fails with the first
need that is not met.

`Family.DependsOn` goes from a service to those that its provider asks for, each on the
container where it is resolved; it ends at services of which an instance is kept.  A service
is `Family.Resolvable` if all that is met on the way is registered and every way ends, so that
nothing on the way depends on itself (`Family.Resolvable.acyclic`).
-/

namespace PageComposer.Service

/-- What a service is made from. -/
inductive Provider (World Instance : Type) where
  | value (made : Instance)
  /-- Services that are resolved in order, and how an instance is built from them. -/
  | services (ids : List Identifier) (build : List Instance → World → Instance × World)
  /-- A class, and how it is built from the parameters that are injected. -/
  | type (name : String) (parameters : List Parameter)
      (build : List (String × Instance) → World → Instance × World)

/-- What a provider asks for. -/
inductive Need where
  | service (id : Identifier)
  /-- A parameter that has no default and that nothing is registered for. -/
  | unmet (className : String) (parameter : Parameter)
  deriving DecidableEq, Repr

/-- What a class asks for to fill a parameter: the service of its name, else the service of
its annotation, else nothing if it has a default. -/
def Parameter.needs (registered : Identifier → Bool) (className : String)
    (parameter : Parameter) : List Need :=
  let id := Identifier.ofText parameter.name
  if registered id then [.service id]
  else
    match parameter.annotation.filter registered with
    | some annotation => [.service annotation]
    | none => if parameter.hasDefault then [] else [.unmet className parameter]

/-- A parameter asks for the service of its name or for that of its annotation. -/
theorem Parameter.service_mem_needs {registered : Identifier → Bool} {className : String}
    {parameter : Parameter} {asked : Identifier}
    (needed : .service asked ∈ parameter.needs registered className) :
    asked = .ofText parameter.name ∨ parameter.annotation = some asked := by
  rw [Parameter.needs] at needed
  split at needed
  · left
    simpa using needed
  · right
    split at needed
    · rename_i annotation filtered
      obtain rfl : asked = annotation := by simpa using needed
      exact (Option.filter_eq_some_iff.mp filtered).1
    · split at needed <;> simp at needed

def Recipe.build {World Instance : Type} (make : World → Instance × World) :
    Recipe World Instance :=
  .read fun world => .write (make world).2 (.give (make world).1)

namespace Provider

variable {World Instance : Type}

def recipe : Provider World Instance → Recipe World Instance
  | value made => .give made
  | services ids build => .requireAll (fun found => .build (build found)) ids
  | type name parameters build => .inject name (fun found => .build (build found)) parameters

/-- What a provider asks for, in order, from a container on which some services are
registered. -/
def needs (registered : Identifier → Bool) : Provider World Instance → List Need
  | value _ => []
  | services ids _ => ids.map .service
  | type name parameters _ => parameters.flatMap (Parameter.needs registered name)

end Provider

/-! ### Recipes that ask for services in order -/

/-- A recipe resolves what it needs in order, fails as soon as a need is not met, and else
comes to an instance. -/
inductive Recipe.Asks {World Instance : Type} (registered : Identifier → Bool) :
    List Need → Recipe World Instance → Prop where
  | give {made : Instance} : Asks registered [] (.give made)
  | build {make : World → Instance × World} : Asks registered [] (.build make)
  | known {needs : List Need} {id : Identifier} {rest : Bool → Recipe World Instance}
      (onward : Asks registered needs (rest (registered id))) :
      Asks registered needs (.known id rest)
  | service {needs : List Need} {id : Identifier} {rest : Instance → Recipe World Instance}
      (onward : ∀ found, Asks registered needs (rest found)) :
      Asks registered (.service id :: needs) (.require id rest)
  | unmet {needs : List Need} {className : String} {parameter : Parameter} :
      Asks registered (.unmet className parameter :: needs)
        (.fail (unresolved className parameter))

section

variable {World Instance : Type} {registered : Identifier → Bool}

theorem Recipe.asks_requireAll {rest : List Instance → Recipe World Instance}
    (onward : ∀ found, (rest found).Asks registered []) (ids : List Identifier) :
    (Recipe.requireAll rest ids).Asks registered (ids.map .service) := by
  induction ids generalizing rest with
  | nil => exact onward []
  | cons id ids induction =>
      refine .service fun found => induction ?_
      intro others
      exact onward (found :: others)

theorem Recipe.asks_argument {className : String} {parameter : Parameter} {needs : List Need}
    {rest : Option Instance → Recipe World Instance}
    (onward : ∀ found, (rest found).Asks registered needs) :
    (Recipe.argument className parameter rest).Asks registered
      (parameter.needs registered className ++ needs) := by
  rw [argument]
  refine .known ?_
  by_cases byName : registered (Identifier.ofText parameter.name) = true
  · rw [if_pos byName, Parameter.needs, if_pos byName]
    exact .service fun found => onward (some found)
  · rw [if_neg byName, Parameter.needs, if_neg byName, byAnnotation]
    have absent : (if parameter.hasDefault then rest none
        else .fail (unresolved className parameter)).Asks registered
          ((if parameter.hasDefault then [] else [.unmet className parameter]) ++ needs) := by
      split
      · exact onward none
      · exact .unmet
    cases parameter.annotation with
    | none => exact absent
    | some annotation =>
        refine .known ?_
        by_cases byType : registered annotation = true
        · rw [if_pos byType, Option.filter_some, if_pos byType]
          exact .service fun found => onward (some found)
        · rw [if_neg byType, Option.filter_some, if_neg byType]
          exact absent

theorem Recipe.asks_inject {className : String}
    {build : List (String × Instance) → Recipe World Instance}
    (onward : ∀ found, (build found).Asks registered []) (parameters : List Parameter) :
    (Recipe.inject className build parameters).Asks registered
      (parameters.flatMap (Parameter.needs registered className)) := by
  induction parameters generalizing build with
  | nil => exact onward []
  | cons parameter rest induction =>
      refine asks_argument fun found => induction ?_
      intro others
      exact onward _

theorem Provider.asks (provider : Provider World Instance) :
    provider.recipe.Asks registered (provider.needs registered) := by
  cases provider with
  | value made => exact .give
  | services ids build => exact Recipe.asks_requireAll (fun _ => .build) ids
  | type name parameters build => exact Recipe.asks_inject (fun _ => .build) parameters

end

/-! ### Following dependencies -/

/-- A service on the container where it is resolved. -/
structure Place where
  handle : Handle
  key : Key
  deriving DecidableEq, Repr

namespace Family

variable {World Instance : Type}

/-- Where a service is resolved that is asked for on a container: a singleton that is
inherited from the root there, all else on the container itself. -/
def venue (family : Family World Instance) (handle : Handle) (id : Identifier) : Handle :=
  match (family.container handle).find? id with
  | some registration =>
      if registration.lifetime = .singleton && family.inherits handle id registration then
        Handle.root
      else handle
  | none => handle

section

variable (provider : Registration World Instance → Provider World Instance)
  (family : Family World Instance)

/-- Something is needed to build a service of which nothing is kept. -/
def Needs (place : Place) (need : Need) : Prop :=
  ∃ registration,
    Table.get? (family.container place.handle).registrations place.key = some registration ∧
    family.kept? place.handle registration.lifetime place.key = none ∧
    need ∈ (provider registration).needs (family.isRegistered place.handle)

/-- A service is needed to build another one of which nothing is kept. -/
def DependsOn (place other : Place) : Prop :=
  ∃ id, family.Needs provider place (.service id) ∧ id.key = some other.key ∧
    other.handle = family.venue place.handle id

abbrev Reaches : Place → Place → Prop := Relation.ReflTransGen (family.DependsOn provider)

/-- A service is registered, and so is all that it needs. -/
structure Supplied (place : Place) : Prop where
  registered : ∃ registration,
    Table.get? (family.container place.handle).registrations place.key = some registration
  needs : ∀ need, family.Needs provider place need →
    ∃ id, need = .service id ∧ family.isRegistered place.handle id = true

/-- The services of a container are made from providers, which ask for nothing that cannot
be registered. -/
structure Provided (handle : Handle) : Prop where
  recipe : ∀ key registration,
    Table.get? (family.container handle).registrations key = some registration →
      registration.factory.create = (provider registration).recipe
  keyed : ∀ key registration id,
    Table.get? (family.container handle).registrations key = some registration →
      .service id ∈ (provider registration).needs (family.isRegistered handle) →
        ∃ name, id.key = some name

/-- An instance of a service is kept, or one can be built from services that are
resolvable. -/
inductive Resolvable : Place → Prop where
  | kept {place : Place} {registration : Registration World Instance} {made : Instance}
      (found : Table.get? (family.container place.handle).registrations place.key =
        some registration)
      (held : family.kept? place.handle registration.lifetime place.key = some made) :
      Resolvable place
  | built {place : Place} (supplied : family.Supplied provider place)
      (onward : ∀ other, family.DependsOn provider place other → Resolvable other) :
      Resolvable place

end

section

variable {provider : Registration World Instance → Provider World Instance}
  {family : Family World Instance} {place other : Place}

theorem Resolvable.supplied (resolvable : family.Resolvable provider place) :
    family.Supplied provider place := by
  cases resolvable with
  | @kept _ registration made found held =>
      refine ⟨⟨registration, found⟩, ?_⟩
      rintro need ⟨own, ownFound, missing, -⟩
      obtain rfl : registration = own := Option.some.inj (found.symm.trans ownFound)
      simp [held] at missing
  | built supplied _ => exact supplied

theorem Resolvable.dependsOn (resolvable : family.Resolvable provider place)
    (depends : family.DependsOn provider place other) : family.Resolvable provider other := by
  cases resolvable with
  | @kept _ registration made found held =>
      obtain ⟨id, ⟨own, ownFound, missing, -⟩, -⟩ := depends
      obtain rfl : registration = own := Option.some.inj (found.symm.trans ownFound)
      simp [held] at missing
  | built _ onward => exact onward other depends

theorem Resolvable.reaches (resolvable : family.Resolvable provider place)
    (reaches : family.Reaches provider place other) : family.Resolvable provider other := by
  induction reaches with
  | refl => exact resolvable
  | tail _ depends induction => exact induction.dependsOn depends

/-- What can be resolved does not depend on itself. -/
theorem Resolvable.acyclic (resolvable : family.Resolvable provider place) :
    ¬ Relation.TransGen (family.DependsOn provider) place place := by
  induction resolvable with
  | @kept place registration made found held =>
      intro cycle
      obtain ⟨next, ⟨id, ⟨own, ownFound, missing, -⟩, -⟩, -⟩ :=
        Relation.TransGen.head'_iff.mp cycle
      obtain rfl : registration = own := Option.some.inj (found.symm.trans ownFound)
      simp [held] at missing
  | built _ _ induction =>
      intro cycle
      obtain ⟨next, depends, back⟩ := Relation.TransGen.head'_iff.mp cycle
      exact induction next depends (.tail' back depends)

/-! ### Where services are resolved -/

theorem venue_of_serves {handle : Handle} {id : Identifier} {key : Key}
    {registration : Registration World Instance}
    (serves : family.Serves handle id key registration) : family.venue handle id = handle := by
  have own : ¬ (registration.lifetime = .singleton && family.inherits handle id registration) := by
    simpa using serves.own
  simp only [venue, serves.found, if_neg own]

theorem venue_of_inherits {handle : Handle} {id : Identifier}
    {registration : Registration World Instance}
    (found : (family.container handle).find? id = some registration)
    (single : registration.lifetime = .singleton)
    (inherited : family.inherits handle id registration = true) :
    family.venue handle id = Handle.root := by
  simp [venue, found, single, inherited]

theorem venue_root (family : Family World Instance) (id : Identifier) :
    family.venue Handle.root id = Handle.root := by
  rw [venue]
  split
  · exact ite_self _
  · rfl

theorem venue_congr {after : Family World Instance}
    (registrations : ∀ handle, (after.container handle).registrations =
      (family.container handle).registrations) (handle : Handle) (id : Identifier) :
    after.venue handle id = family.venue handle id := by
  rw [venue, venue, find?_congr registrations]
  cases (family.container handle).find? id with
  | none => rfl
  | some registration => simp only [inherits_congr registrations]

theorem isRegistered_congr {after : Family World Instance}
    (registrations : ∀ handle, (after.container handle).registrations =
      (family.container handle).registrations) : after.isRegistered = family.isRegistered := by
  funext handle id
  rw [isRegistered, isRegistered, find?_congr registrations]

end

end Family

end PageComposer.Service
