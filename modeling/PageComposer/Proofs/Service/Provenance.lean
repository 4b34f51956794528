import PageComposer.Proofs.Service.Depth

/-!
# What is behind an instance

A `Tracked` family knows of each instance that it keeps what was asked for while the
instance was built, directly or on behalf of what it was built from.  Forgetting this gives
the family itself (`Tracked.family_performAll`), and nothing that a root keeps has ever
anything behind it that was asked for on a scope (`Tracked.Pure`).

Resolutions on the root do not depend on scopes at all: `resolve_root_agrees` says so of two
families that have no more than their roots and their worlds in common.
-/

namespace PageComposer.Service

/-- A service that was asked for on a container. -/
structure Demand where
  handle : Handle
  id : Identifier
  deriving DecidableEq, Repr

/-- A family with what is behind the instances that it keeps. -/
structure Tracked (World Instance : Type) where
  family : Family World Instance
  behind : Handle → Lifetime → Key → List Demand

/-- What a resolution comes to, and all that was asked for on the way. -/
structure Sourced (Instance : Type) where
  outcome : Outcome Instance
  asked : List Demand

namespace Tracked

variable {World Instance : Type}

def start (world : World) : Tracked World Instance := ⟨.start world, fun _ _ _ => []⟩

def withFamily (tracked : Tracked World Instance) (family : Family World Instance) :
    Tracked World Instance :=
  { tracked with family := family }

/-- Keep an instance, and with it what is behind it. -/
def keep (tracked : Tracked World Instance) (handle : Handle) (lifetime : Lifetime) (key : Key)
    (made : Instance) (asked : List Demand) : Tracked World Instance where
  family := tracked.family.keep handle lifetime key made
  behind other next name :=
    if other = handle ∧ next = lifetime ∧ name = key then asked
    else tracked.behind other next name

/-- Run a recipe that has asked for something already.  Whatever it needs counts, also what
it does not get. -/
def cook (handle : Handle)
    (resolve : Identifier → Tracked World Instance → Sourced Instance × Tracked World Instance) :
    Recipe World Instance → List Demand → Tracked World Instance →
      Sourced Instance × Tracked World Instance
  | .give made, asked, tracked => (⟨.ok made, asked⟩, tracked)
  | .fail fault, asked, tracked => (⟨.error fault, asked⟩, tracked)
  | .read rest, asked, tracked => cook handle resolve (rest tracked.family.world) asked tracked
  | .write world rest, asked, tracked =>
      cook handle resolve rest asked
        (tracked.withFamily { tracked.family with world := world })
  | .known id rest, asked, tracked =>
      cook handle resolve (rest (tracked.family.isRegistered handle id)) asked tracked
  | .need id rest, asked, tracked =>
      let (found, after) := resolve id tracked
      cook handle resolve (rest found.outcome) (asked ++ ⟨handle, id⟩ :: found.asked) after

/-- A creation has come to its end: what was built is kept. -/
def finish (handle : Handle) (lifetime : Lifetime) (key : Key)
    (cooked : Sourced Instance × Tracked World Instance) :
    Sourced Instance × Tracked World Instance :=
  let (found, between) := cooked
  let after := between.withFamily (between.family.leave handle)
  match found.outcome with
  | .ok made => (found, after.keep handle lifetime key made found.asked)
  | .error _ => (found, after)

/-- Resolve a service to a given depth. -/
def resolveAt : Nat → Handle → Identifier → Tracked World Instance →
    Sourced Instance × Tracked World Instance
  | 0, _, _, tracked => (⟨.error (.misuse .tooDeep), []⟩, tracked)
  | depth + 1, handle, id, tracked =>
      match id.key with
      | none => (⟨.error .wrongKind, []⟩, tracked)
      | some key =>
          match (tracked.family.container handle).find? id with
          | none => (⟨.error (.problem (.serviceNotRegistered id.text)), []⟩, tracked)
          | some registration =>
              if registration.lifetime = .singleton &&
                  tracked.family.inherits handle id registration then
                resolveAt depth Handle.root id tracked
              else
                let creating := (tracked.family.container handle).creating
                if creating.any fun other => other.key = some key then
                  (⟨.error (Family.circular creating id), []⟩, tracked)
                else
                  match tracked.family.kept? handle registration.lifetime key with
                  | some made =>
                      (⟨.ok made, tracked.behind handle registration.lifetime key⟩, tracked)
                  | none =>
                      finish handle registration.lifetime key
                        (cook handle (resolveAt depth handle) registration.factory.create []
                          (tracked.withFamily (tracked.family.enter handle id)))

/-- The tracked family after a step. -/
def perform (tracked : Tracked World Instance) : Step World Instance → Tracked World Instance
  | .resolve handle id => (resolveAt (tracked.family.depth handle) handle id tracked).2
  | step => tracked.withFamily (tracked.family.perform step)

def performAll (tracked : Tracked World Instance) (steps : List (Step World Instance)) :
    Tracked World Instance :=
  steps.foldl perform tracked

section

variable {tracked : Tracked World Instance} {depth : Nat} {handle : Handle} {id : Identifier}
  {key : Key} {registration : Registration World Instance}

theorem resolveAt_of_unkeyed (keyless : id.key = none) :
    resolveAt (depth + 1) handle id tracked = (⟨.error .wrongKind, []⟩, tracked) := by
  simp only [resolveAt, keyless]

theorem resolveAt_of_unknown (named : id.key = some key)
    (absent : (tracked.family.container handle).find? id = none) :
    resolveAt (depth + 1) handle id tracked =
      (⟨.error (.problem (.serviceNotRegistered id.text)), []⟩, tracked) := by
  simp only [resolveAt, named, absent]

theorem resolveAt_of_inherits (named : id.key = some key)
    (found : (tracked.family.container handle).find? id = some registration)
    (single : registration.lifetime = .singleton)
    (inherited : tracked.family.inherits handle id registration = true) :
    resolveAt (depth + 1) handle id tracked = resolveAt depth Handle.root id tracked := by
  simp only [resolveAt, named, found, single, inherited, decide_true, Bool.and_self, if_true]

theorem resolveAt_of_creating (serves : tracked.family.Serves handle id key registration)
    (creating : tracked.family.IsCreating handle key) :
    resolveAt (depth + 1) handle id tracked =
      (⟨.error (Family.circular (tracked.family.container handle).creating id), []⟩, tracked) := by
  have own : ¬ (registration.lifetime = .singleton &&
      tracked.family.inherits handle id registration) := by
    simpa using serves.own
  simp only [resolveAt, serves.named, serves.found, if_neg own,
    Family.any_creating_iff.mpr creating, if_true]

theorem resolveAt_of_kept {made : Instance}
    (serves : tracked.family.Serves handle id key registration)
    (free : ¬ tracked.family.IsCreating handle key)
    (held : tracked.family.kept? handle registration.lifetime key = some made) :
    resolveAt (depth + 1) handle id tracked =
      (⟨.ok made, tracked.behind handle registration.lifetime key⟩, tracked) := by
  have own : ¬ (registration.lifetime = .singleton &&
      tracked.family.inherits handle id registration) := by
    simpa using serves.own
  rw [← Family.any_creating_iff] at free
  simp only [resolveAt, serves.named, serves.found, if_neg own, if_neg free, held]

theorem resolveAt_of_missing (serves : tracked.family.Serves handle id key registration)
    (free : ¬ tracked.family.IsCreating handle key)
    (missing : tracked.family.kept? handle registration.lifetime key = none) :
    resolveAt (depth + 1) handle id tracked =
      finish handle registration.lifetime key
        (cook handle (resolveAt depth handle) registration.factory.create []
          (tracked.withFamily (tracked.family.enter handle id))) := by
  have own : ¬ (registration.lifetime = .singleton &&
      tracked.family.inherits handle id registration) := by
    simpa using serves.own
  rw [← Family.any_creating_iff] at free
  simp only [resolveAt, serves.named, serves.found, if_neg own, if_neg free, missing]

end

variable {tracked : Tracked World Instance}

/-! ### Forgetting what is behind -/

def forget (result : Sourced Instance × Tracked World Instance) :
    Outcome Instance × Family World Instance :=
  (result.1.outcome, result.2.family)

theorem cook_forgets {handle : Handle}
    {resolve : Identifier → Tracked World Instance → Sourced Instance × Tracked World Instance}
    {plain : Identifier → Family World Instance → Outcome Instance × Family World Instance}
    (forgets : ∀ id tracked, plain id tracked.family = forget (resolve id tracked))
    (recipe : Recipe World Instance) (asked : List Demand) (tracked : Tracked World Instance) :
    Family.cook handle plain recipe tracked.family =
      forget (cook handle resolve recipe asked tracked) := by
  induction recipe generalizing asked tracked with
  | give made | fail fault => rfl
  | read rest induction => exact induction tracked.family.world asked tracked
  | write world rest induction =>
      exact induction asked (tracked.withFamily { tracked.family with world := world })
  | known id rest induction =>
      exact induction (tracked.family.isRegistered handle id) asked tracked
  | need id rest induction =>
      rw [Family.cook, forgets id tracked]
      exact induction _ _ _

theorem resolveAt_forgets (depth : Nat) (handle : Handle) (id : Identifier)
    (tracked : Tracked World Instance) :
    Family.resolveAt depth handle id tracked.family =
      forget (resolveAt depth handle id tracked) := by
  induction depth generalizing handle id tracked with
  | zero => rfl
  | succ depth induction =>
      cases tracked.family.way handle id with
      | unkeyed keyless =>
          rw [Family.resolveAt_of_unkeyed keyless, resolveAt_of_unkeyed keyless]
          rfl
      | unknown named absent =>
          rw [Family.resolveAt_of_unknown named absent, resolveAt_of_unknown named absent]
          rfl
      | inherited named found single inherited =>
          rw [Family.resolveAt_of_inherits named found single inherited,
            resolveAt_of_inherits named found single inherited]
          exact induction Handle.root id tracked
      | creating serves creating =>
          rw [Family.resolveAt_of_creating serves creating, resolveAt_of_creating serves creating]
          rfl
      | @free key registration serves free =>
          rw [Family.resolveAt_of_free serves free]
          cases held : tracked.family.kept? handle registration.lifetime key with
          | some made =>
              rw [resolveAt_of_kept serves free held]
              rfl
          | none =>
              have same : Family.cook handle (Family.resolveAt depth handle)
                  registration.factory.create (tracked.family.enter handle id) =
                  forget (cook handle (resolveAt depth handle) registration.factory.create []
                    (tracked.withFamily (tracked.family.enter handle id))) :=
                cook_forgets (induction handle) registration.factory.create []
                  (tracked.withFamily (tracked.family.enter handle id))
              rw [resolveAt_of_missing serves free held, same]
              generalize cook handle (resolveAt depth handle) registration.factory.create []
                (tracked.withFamily (tracked.family.enter handle id)) = cooked
              obtain ⟨⟨outcome, asked⟩, between⟩ := cooked
              cases outcome <;> rfl

theorem family_perform (tracked : Tracked World Instance) (step : Step World Instance) :
    (tracked.perform step).family = tracked.family.perform step := by
  cases step with
  | resolve handle id =>
      have same := resolveAt_forgets (tracked.family.depth handle) handle id tracked
      rw [perform, Family.perform, Family.resolve, same]
      rfl
  | register | createScope | dispose => rfl

/-- A tracked family goes the way of the family itself. -/
theorem family_performAll (tracked : Tracked World Instance)
    (steps : List (Step World Instance)) :
    (tracked.performAll steps).family = tracked.family.performAll steps := by
  induction steps generalizing tracked with
  | nil => rfl
  | cons step rest induction =>
      have onward := induction (tracked.perform step)
      rw [family_perform] at onward
      exact onward

/-! ### What is behind the instances of a root -/

/-- Nothing is behind what the root keeps that was asked for on a scope. -/
def Pure (tracked : Tracked World Instance) : Prop :=
  ∀ key, ∀ demand ∈ tracked.behind Handle.root .singleton key, demand.handle = Handle.root

/-- A step keeps the root pure; one on the root asks for nothing elsewhere. -/
def Purely (handle : Handle) (result : Sourced Instance × Tracked World Instance) : Prop :=
  result.2.Pure ∧
    (handle = Handle.root → ∀ demand ∈ result.1.asked, demand.handle = Handle.root)

theorem pure_start (world : World) : (start world : Tracked World Instance).Pure := by
  intro key demand member
  simp [start] at member

theorem cook_purely {handle : Handle}
    {resolve : Identifier → Tracked World Instance → Sourced Instance × Tracked World Instance}
    (purely : ∀ id tracked, tracked.Pure → Purely handle (resolve id tracked))
    (recipe : Recipe World Instance) (asked : List Demand) (tracked : Tracked World Instance)
    (pure : tracked.Pure)
    (onRoot : handle = Handle.root → ∀ demand ∈ asked, demand.handle = Handle.root) :
    Purely handle (cook handle resolve recipe asked tracked) := by
  induction recipe generalizing asked tracked with
  | give made | fail fault => exact ⟨pure, onRoot⟩
  | read rest induction => exact induction _ asked tracked pure onRoot
  | write world rest induction => exact induction asked _ pure onRoot
  | known id rest induction => exact induction _ asked tracked pure onRoot
  | need id rest induction =>
      obtain ⟨stillPure, askedOnRoot⟩ := purely id tracked pure
      apply induction _ _ _ stillPure
      intro atRoot demand member
      rw [List.mem_append, List.mem_cons] at member
      rcases member with before | rfl | behind
      · exact onRoot atRoot demand before
      · exact atRoot
      · exact askedOnRoot atRoot demand behind

theorem keep_pure {handle : Handle} {lifetime : Lifetime} {key : Key} {made : Instance}
    {asked : List Demand} (pure : tracked.Pure)
    (onRoot : handle = Handle.root → ∀ demand ∈ asked, demand.handle = Handle.root) :
    (tracked.keep handle lifetime key made asked).Pure := by
  intro name demand member
  simp only [keep] at member
  split at member
  · rename_i here
    exact onRoot here.1.symm demand member
  · exact pure name demand member

theorem finish_purely {handle : Handle} {lifetime : Lifetime} {key : Key}
    {cooked : Sourced Instance × Tracked World Instance} (purely : Purely handle cooked) :
    Purely handle (finish handle lifetime key cooked) := by
  obtain ⟨⟨outcome, asked⟩, between⟩ := cooked
  obtain ⟨pure, onRoot⟩ := purely
  cases outcome with
  | error fault => exact ⟨pure, onRoot⟩
  | ok made => exact ⟨keep_pure pure onRoot, onRoot⟩

theorem resolveAt_purely (depth : Nat) (handle : Handle) (id : Identifier)
    (tracked : Tracked World Instance) (pure : tracked.Pure) :
    Purely handle (resolveAt depth handle id tracked) := by
  induction depth generalizing handle id tracked with
  | zero => exact ⟨pure, nofun⟩
  | succ depth induction =>
      cases tracked.family.way handle id with
      | unkeyed keyless =>
          rw [resolveAt_of_unkeyed keyless]
          exact ⟨pure, nofun⟩
      | unknown named absent =>
          rw [resolveAt_of_unknown named absent]
          exact ⟨pure, nofun⟩
      | inherited named found single inherited =>
          -- What is left to the root is asked for there, whoever asks.
          rw [resolveAt_of_inherits named found single inherited]
          obtain ⟨stillPure, onRoot⟩ := induction Handle.root id tracked pure
          exact ⟨stillPure, fun _ => onRoot rfl⟩
      | creating serves creating =>
          rw [resolveAt_of_creating serves creating]
          exact ⟨pure, nofun⟩
      | @free key registration serves free =>
          cases held : tracked.family.kept? handle registration.lifetime key with
          | some made =>
              rw [resolveAt_of_kept serves free held]
              refine ⟨pure, ?_⟩
              rintro rfl
              cases lifetime : registration.lifetime with
              | singleton => exact pure key
              | transient => simp [lifetime, Family.kept?] at held
              | perScope => simp [lifetime, Family.kept?] at held
          | none =>
              rw [resolveAt_of_missing serves free held]
              apply finish_purely
              exact cook_purely (induction handle) _ _ _ pure fun _ _ none => by cases none

theorem pure_performAll {steps : List (Step World Instance)} (pure : tracked.Pure) :
    (tracked.performAll steps).Pure := by
  induction steps generalizing tracked with
  | nil => exact pure
  | cons step rest induction =>
      apply induction
      cases step with
      | resolve handle id => exact (resolveAt_purely _ handle id tracked pure).1
      | register | createScope | dispose => exact pure

end Tracked

/-! ### Roots with different scopes -/

namespace Family

variable {World Instance : Type}

/-- Two families have the same root and the same world; their scopes may be any. -/
structure SameRoot (family other : Family World Instance) : Prop where
  root : other.container Handle.root = family.container Handle.root
  world : other.world = family.world

variable {family other : Family World Instance}

theorem SameRoot.modify (same : family.SameRoot other)
    (change : Container World Instance → Container World Instance) :
    (family.modify Handle.root change).SameRoot (other.modify Handle.root change) where
  root := by rw [container_modify_self, container_modify_self, same.root]
  world := same.world

theorem SameRoot.keep (same : family.SameRoot other) (lifetime : Lifetime) (key : Key)
    (made : Instance) : (family.keep Handle.root lifetime key made).SameRoot
      (other.keep Handle.root lifetime key made) := by
  cases lifetime with
  | transient => exact same
  | singleton =>
      exact same.modify fun container =>
        { container with singletons := Table.insert container.singletons key made }
  | perScope => simpa [Family.keep] using same

theorem SameRoot.kept? (same : family.SameRoot other) (lifetime : Lifetime) (key : Key) :
    other.kept? Handle.root lifetime key = family.kept? Handle.root lifetime key :=
  kept?_congr (by rw [same.root]) (by rw [same.root])

/-- Two results are the same as far as the root can tell. -/
def Agree (first second : Outcome Instance × Family World Instance) : Prop :=
  second.1 = first.1 ∧ first.2.SameRoot second.2

theorem cook_agrees
    {resolve : Identifier → Family World Instance → Outcome Instance × Family World Instance}
    (agrees : ∀ id family other, family.SameRoot other → Agree (resolve id family) (resolve id other))
    (recipe : Recipe World Instance) (same : family.SameRoot other) :
    Agree (cook Handle.root resolve recipe family) (cook Handle.root resolve recipe other) := by
  induction recipe generalizing family other with
  | give made | fail fault => exact ⟨rfl, same⟩
  | read rest induction =>
      rw [cook, cook, same.world]
      exact induction _ same
  | write world rest induction => exact induction ⟨same.root, rfl⟩
  | known id rest induction =>
      rw [cook, cook, isRegistered, isRegistered, same.root]
      exact induction _ same
  | need id rest induction =>
      obtain ⟨outcome, after⟩ := agrees id family other same
      simp only [cook, outcome]
      exact induction _ after

theorem SameRoot.serves {id : Identifier} {key : Key} {registration : Registration World Instance}
    (same : family.SameRoot other) (serves : family.Serves Handle.root id key registration) :
    other.Serves Handle.root id key registration where
  named := serves.named
  found := by
    rw [same.root]
    exact serves.found
  own := by simp [inherits]

theorem resolveAt_root_agrees (depth : Nat) (id : Identifier) (same : family.SameRoot other) :
    Agree (resolveAt depth Handle.root id family) (resolveAt depth Handle.root id other) := by
  induction depth generalizing id family other with
  | zero => exact ⟨rfl, same⟩
  | succ depth induction =>
      cases family.way Handle.root id with
      | unkeyed keyless =>
          rw [resolveAt_of_unkeyed keyless, resolveAt_of_unkeyed keyless]
          exact ⟨rfl, same⟩
      | unknown named absent =>
          rw [resolveAt_of_unknown named absent,
            resolveAt_of_unknown named (by rwa [same.root])]
          exact ⟨rfl, same⟩
      | inherited _ _ _ inherited => exact absurd rfl (ne_root_of_inherits inherited)
      | @creating key registration serves creating =>
          have creatingToo : other.IsCreating Handle.root key := by
            rwa [IsCreating, same.root]
          rw [resolveAt_of_creating serves creating,
            resolveAt_of_creating (same.serves serves) creatingToo, same.root]
          exact ⟨rfl, same⟩
      | @free key registration serves free =>
          have freeToo : ¬ other.IsCreating Handle.root key := by
            rwa [IsCreating, same.root]
          rw [resolveAt_of_free serves free, resolveAt_of_free (same.serves serves) freeToo,
            same.kept?]
          cases family.kept? Handle.root registration.lifetime key with
          | some made => exact ⟨rfl, same⟩
          | none =>
              have entered : (family.enter Handle.root id).SameRoot (other.enter Handle.root id) :=
                same.modify _
              have agrees (id : Identifier) (family other : Family World Instance)
                  (same : family.SameRoot other) :
                  Agree (resolveAt depth Handle.root id family)
                    (resolveAt depth Handle.root id other) := induction id same
              obtain ⟨outcome, after⟩ := cook_agrees agrees registration.factory.create entered
              have left : (Family.leave _ Handle.root).SameRoot (Family.leave _ Handle.root) :=
                after.modify fun container =>
                  { container with creating := container.creating.dropLast }
              simp only [outcome]
              cases (cook Handle.root (resolveAt depth Handle.root) registration.factory.create
                (family.enter Handle.root id)).1 with
              | ok made => exact ⟨rfl, left.keep registration.lifetime key made⟩
              | error fault => exact ⟨rfl, left⟩

/-- What the root comes to does not depend on its scopes. -/
theorem resolve_root_agrees (id : Identifier) (same : family.SameRoot other) :
    Agree (family.resolve Handle.root id) (other.resolve Handle.root id) := by
  rw [resolve, resolve, depth, depth, same.root]
  exact resolveAt_root_agrees _ id same

end Family

/-- Whatever is done to a root and its scopes, nothing that the root keeps was built, directly
or through what it was built from, from anything that was asked for on a scope.  A singleton
that a scope has from the root comes out as if it was resolved on the root, and this is the
same for all families with this root and this world, whatever their scopes register and
keep. -/
theorem Tracked.no_captives {World Instance : Type} (world : World)
    (steps : List (Step World Instance)) :
    ((Tracked.start world).performAll steps).family = (Family.start world).performAll steps ∧
    (∀ key made,
      ((Family.start world).performAll steps).kept? Handle.root .singleton key = some made →
      ∀ demand ∈ ((Tracked.start world).performAll steps).behind Handle.root .singleton key,
        demand.handle = Handle.root) ∧
    (∀ (other : Family World Instance) (handle : Handle) (id : Identifier)
      (registration : Registration World Instance),
      ((Family.start world).performAll steps).SameRoot other →
      (other.container handle).find? id = some registration →
      registration.lifetime = .singleton → other.inherits handle id registration = true →
      other.resolve handle id = other.resolve Handle.root id ∧
        Family.Agree (((Family.start world).performAll steps).resolve Handle.root id)
          (other.resolve handle id)) := by
  have pure : ((Tracked.start world).performAll steps).Pure := pure_performAll (pure_start world)
  refine ⟨family_performAll _ steps, fun key made _ => pure key, ?_⟩
  intro other handle id registration same found single inherited
  have onRoot := Family.resolve_of_inherits found single inherited
  refine ⟨onRoot, ?_⟩
  rw [onRoot]
  exact Family.resolve_root_agrees id same

/-! ### A scope with settings of its own -/

def plainFactory (text : String) : Factory Nat String := .ofRecipe (.give text)

def databaseFactory : Factory Nat String :=
  .ofRecipe (.require (.ofText "settings") fun settings => .give ("database of " ++ settings))

/-- A scope registers other settings and then is the first to ask for the database. -/
def overridden : List (Step Nat String) := [
  .register Handle.root (.ofText "settings") (plainFactory "the root") .singleton [],
  .register Handle.root (.ofText "database") databaseFactory .singleton [],
  .createScope Handle.root,
  .register 1 (.ofText "settings") (plainFactory "a scope") .perScope [],
  .resolve 1 (.ofText "database")]

theorem Tracked.no_captives_overridden :
    ((Family.start 0).performAll overridden).kept? Handle.root .singleton (.text "database") =
      some "database of the root" ∧
    ((Tracked.start 0).performAll overridden).behind Handle.root .singleton (.text "database") =
      [⟨Handle.root, .ofText "settings"⟩] ∧
    ∀ demand ∈ ((Tracked.start 0).performAll overridden).behind Handle.root .singleton
        (.text "database"), demand.handle = Handle.root := by
  have kept : ((Family.start 0).performAll overridden).kept? Handle.root .singleton
      (.text "database") = some "database of the root" := by decide
  exact ⟨kept, by decide, (Tracked.no_captives 0 overridden).2.1 _ _ kept⟩

end PageComposer.Service
