import PageComposer.Proofs.Service.Operations

/-!
# Runs of resolutions

`Runs` says what a container can come to when it resolves a service or runs a recipe, one
rule for each way, and which instances are made and handed out on the way.
`runs_resolveAt` and `Runs.answer_eq` say that these are the resolutions of families and no
others, so that what holds of every resolution is shown by one induction over the rules.
-/

namespace PageComposer.Service

/-- What becomes of instances. -/
inductive Event (Instance : Type) where
  /-- A recipe has come to an instance, with a container. -/
  | made (handle : Handle) (key : Key) (made : Instance)
  /-- A service was resolved on a container. -/
  | resolved (handle : Handle) (key : Key) (found : Instance)
  | disposed (handle : Handle)
  deriving DecidableEq, Repr

namespace Family

variable {World Instance : Type}

/-- A container has a registration of its own for an identifier: none that it leaves to
the root. -/
structure Serves (family : Family World Instance) (handle : Handle) (id : Identifier) (key : Key)
    (registration : Registration World Instance) : Prop where
  named : id.key = some key
  found : (family.container handle).find? id = some registration
  own : ¬ (registration.lifetime = .singleton ∧ family.inherits handle id registration = true)

theorem Serves.get? {family : Family World Instance} {handle : Handle} {id : Identifier}
    {key : Key} {registration : Registration World Instance}
    (serves : family.Serves handle id key registration) :
    Table.get? (family.container handle).registrations key = some registration := by
  rw [← find?_of_key serves.named]
  exact serves.found

theorem Serves.congr {family after : Family World Instance} {handle : Handle} {id : Identifier}
    {key : Key} {registration : Registration World Instance}
    (serves : after.Serves handle id key registration)
    (registrations : ∀ handle, (after.container handle).registrations =
      (family.container handle).registrations) :
    family.Serves handle id key registration where
  named := serves.named
  found := (find?_congr registrations handle id).symm.trans serves.found
  own := inherits_congr registrations handle id registration ▸ serves.own

inductive Task (World Instance : Type) where
  | resolve (id : Identifier)
  | cook (recipe : Recipe World Instance)

/-- What a container does, to a given depth. -/
def answer (depth : Nat) (handle : Handle) :
    Task World Instance → Family World Instance → Outcome Instance × Family World Instance
  | .resolve id => resolveAt depth handle id
  | .cook recipe => cook handle (resolveAt depth handle) recipe

/-- What is noted when a service was resolved. -/
def handedOut (handle : Handle) (key : Key) : Outcome Instance → List (Event Instance)
  | .ok found => [.resolved handle key found]
  | .error _ => []

/-- A run of a container: from a family, with what becomes of instances on the way, to an
outcome and a family. -/
inductive Runs : Nat → Handle → Task World Instance → Family World Instance →
    List (Event Instance) → Outcome Instance → Family World Instance → Prop where
  | tooDeep {handle : Handle} {id : Identifier} {family : Family World Instance} :
      Runs 0 handle (.resolve id) family [] (.error (.misuse .tooDeep)) family
  | unkeyed {depth : Nat} {handle : Handle} {id : Identifier} {family : Family World Instance}
      (keyless : id.key = none) :
      Runs (depth + 1) handle (.resolve id) family [] (.error .wrongKind) family
  | unknown {depth : Nat} {handle : Handle} {id : Identifier} {key : Key}
      {family : Family World Instance} (named : id.key = some key)
      (absent : (family.container handle).find? id = none) :
      Runs (depth + 1) handle (.resolve id) family []
        (.error (.problem (.serviceNotRegistered id.text))) family
  | delegated {depth : Nat} {handle : Handle} {id : Identifier} {key : Key}
      {registration : Registration World Instance} {family after : Family World Instance}
      {trace : List (Event Instance)} {outcome : Outcome Instance}
      (named : id.key = some key)
      (found : (family.container handle).find? id = some registration)
      (single : registration.lifetime = .singleton)
      (inherited : family.inherits handle id registration = true)
      (onRoot : Runs depth Handle.root (.resolve id) family trace outcome after) :
      Runs (depth + 1) handle (.resolve id) family (trace ++ handedOut handle key outcome)
        outcome after
  | circular {depth : Nat} {handle : Handle} {id : Identifier} {key : Key}
      {registration : Registration World Instance} {family : Family World Instance}
      (serves : family.Serves handle id key registration)
      (creating : family.IsCreating handle key) :
      Runs (depth + 1) handle (.resolve id) family []
        (.error (circular (family.container handle).creating id)) family
  | kept {depth : Nat} {handle : Handle} {id : Identifier} {key : Key}
      {registration : Registration World Instance} {family : Family World Instance}
      {made : Instance} (serves : family.Serves handle id key registration)
      (free : ¬ family.IsCreating handle key)
      (held : family.kept? handle registration.lifetime key = some made) :
      Runs (depth + 1) handle (.resolve id) family [.resolved handle key made] (.ok made) family
  | made {depth : Nat} {handle : Handle} {id : Identifier} {key : Key}
      {registration : Registration World Instance} {family between : Family World Instance}
      {trace : List (Event Instance)} {made : Instance}
      (serves : family.Serves handle id key registration)
      (free : ¬ family.IsCreating handle key)
      (missing : family.kept? handle registration.lifetime key = none)
      (cooked : Runs depth handle (.cook registration.factory.create) (family.enter handle id)
        trace (.ok made) between) :
      Runs (depth + 1) handle (.resolve id) family
        (trace ++ [.made handle key made, .resolved handle key made]) (.ok made)
        ((between.leave handle).keep handle registration.lifetime key made)
  | failed {depth : Nat} {handle : Handle} {id : Identifier} {key : Key}
      {registration : Registration World Instance} {family between : Family World Instance}
      {trace : List (Event Instance)} {fault : Fault}
      (serves : family.Serves handle id key registration)
      (free : ¬ family.IsCreating handle key)
      (missing : family.kept? handle registration.lifetime key = none)
      (cooked : Runs depth handle (.cook registration.factory.create) (family.enter handle id)
        trace (.error fault) between) :
      Runs (depth + 1) handle (.resolve id) family trace (.error fault) (between.leave handle)
  | give {depth : Nat} {handle : Handle} {made : Instance} {family : Family World Instance} :
      Runs depth handle (.cook (.give made)) family [] (.ok made) family
  | fail {depth : Nat} {handle : Handle} {fault : Fault} {family : Family World Instance} :
      Runs depth handle (.cook (.fail fault)) family [] (.error fault) family
  | read {depth : Nat} {handle : Handle} {rest : World → Recipe World Instance}
      {family after : Family World Instance} {trace : List (Event Instance)}
      {outcome : Outcome Instance}
      (onward : Runs depth handle (.cook (rest family.world)) family trace outcome after) :
      Runs depth handle (.cook (.read rest)) family trace outcome after
  | write {depth : Nat} {handle : Handle} {world : World} {rest : Recipe World Instance}
      {family after : Family World Instance} {trace : List (Event Instance)}
      {outcome : Outcome Instance}
      (onward : Runs depth handle (.cook rest) { family with world := world } trace outcome
        after) :
      Runs depth handle (.cook (.write world rest)) family trace outcome after
  | known {depth : Nat} {handle : Handle} {id : Identifier}
      {rest : Bool → Recipe World Instance} {family after : Family World Instance}
      {trace : List (Event Instance)} {outcome : Outcome Instance}
      (onward : Runs depth handle (.cook (rest (family.isRegistered handle id))) family trace
        outcome after) :
      Runs depth handle (.cook (.known id rest)) family trace outcome after
  | need {depth : Nat} {handle : Handle} {id : Identifier}
      {rest : Outcome Instance → Recipe World Instance}
      {family between after : Family World Instance} {inner later : List (Event Instance)}
      {found outcome : Outcome Instance}
      (asked : Runs depth handle (.resolve id) family inner found between)
      (onward : Runs depth handle (.cook (rest found)) between later outcome after) :
      Runs depth handle (.cook (.need id rest)) family (inner ++ later) outcome after

/-! ### Runs and resolutions -/

theorem runs_cook {depth : Nat} {handle : Handle}
    (resolves : ∀ (id : Identifier) (family : Family World Instance), ∃ trace,
      Runs depth handle (.resolve id) family trace (resolveAt depth handle id family).1
        (resolveAt depth handle id family).2)
    (recipe : Recipe World Instance) (family : Family World Instance) :
    ∃ trace, Runs depth handle (.cook recipe) family trace
      (cook handle (resolveAt depth handle) recipe family).1
      (cook handle (resolveAt depth handle) recipe family).2 := by
  induction recipe generalizing family with
  | give made => exact ⟨[], .give⟩
  | fail fault => exact ⟨[], .fail⟩
  | read rest induction =>
      obtain ⟨trace, onward⟩ := induction family.world family
      exact ⟨trace, .read onward⟩
  | write world rest induction =>
      obtain ⟨trace, onward⟩ := induction { family with world := world }
      exact ⟨trace, .write onward⟩
  | known id rest induction =>
      obtain ⟨trace, onward⟩ := induction (family.isRegistered handle id) family
      exact ⟨trace, .known onward⟩
  | need id rest induction =>
      obtain ⟨inner, asked⟩ := resolves id family
      obtain ⟨later, onward⟩ := induction (resolveAt depth handle id family).1
        (resolveAt depth handle id family).2
      exact ⟨inner ++ later, .need asked onward⟩

/-- What a container does to resolve a service is a run. -/
theorem runs_resolveAt (depth : Nat) (handle : Handle) (id : Identifier)
    (family : Family World Instance) :
    ∃ trace, Runs depth handle (.resolve id) family trace
      (resolveAt depth handle id family).1 (resolveAt depth handle id family).2 := by
  induction depth generalizing handle id family with
  | zero => exact ⟨[], .tooDeep⟩
  | succ depth induction =>
      rw [resolveAt]
      split
      · rename_i keyless
        exact ⟨[], .unkeyed keyless⟩
      · rename_i key named
        split
        · rename_i absent
          exact ⟨[], .unknown named absent⟩
        · rename_i registration found
          split
          · rename_i inherited
            rw [Bool.and_eq_true, decide_eq_true_iff] at inherited
            obtain ⟨trace, onRoot⟩ := induction Handle.root id family
            exact ⟨_, .delegated named found inherited.1 inherited.2 onRoot⟩
          · rename_i own
            rw [Bool.and_eq_true, decide_eq_true_iff] at own
            have serves : family.Serves handle id key registration := ⟨named, found, own⟩
            dsimp only
            split
            · rename_i creating
              exact ⟨[], .circular serves (any_creating_iff.mp creating)⟩
            · rename_i free
              rw [any_creating_iff] at free
              split
              · rename_i made held
                exact ⟨_, .kept serves free held⟩
              · rename_i missing
                obtain ⟨trace, cooked⟩ := runs_cook (induction handle)
                  registration.factory.create (family.enter handle id)
                rcases came : cook handle (resolveAt depth handle) registration.factory.create
                  (family.enter handle id) with ⟨fault | made, between⟩ <;> rw [came] at cooked
                · exact ⟨_, .failed serves free missing cooked⟩
                · exact ⟨_, .made serves free missing cooked⟩

theorem resolveAt_of_creating {depth : Nat} {handle : Handle} {id : Identifier} {key : Key}
    {registration : Registration World Instance} {family : Family World Instance}
    (serves : family.Serves handle id key registration) (creating : family.IsCreating handle key) :
    resolveAt (depth + 1) handle id family =
      (.error (circular (family.container handle).creating id), family) := by
  have own : ¬ (registration.lifetime = .singleton && family.inherits handle id registration) := by
    simpa using serves.own
  simp only [resolveAt, serves.named, serves.found, if_neg own, any_creating_iff.mpr creating,
    if_true]

theorem resolveAt_of_free {depth : Nat} {handle : Handle} {id : Identifier} {key : Key}
    {registration : Registration World Instance} {family : Family World Instance}
    (serves : family.Serves handle id key registration) (free : ¬ family.IsCreating handle key) :
    resolveAt (depth + 1) handle id family =
      match family.kept? handle registration.lifetime key with
      | some made => (.ok made, family)
      | none =>
          let (outcome, cooked) := cook handle (resolveAt depth handle)
            registration.factory.create (family.enter handle id)
          match outcome with
          | .ok made => (.ok made, (cooked.leave handle).keep handle registration.lifetime key made)
          | .error fault => (.error fault, cooked.leave handle) := by
  have own : ¬ (registration.lifetime = .singleton && family.inherits handle id registration) := by
    simpa using serves.own
  rw [← any_creating_iff] at free
  rewrite [resolveAt, serves.named]
  dsimp only
  rewrite [serves.found]
  dsimp only
  rewrite [if_neg own, if_neg free]
  rfl

theorem resolveAt_of_unkeyed {depth : Nat} {handle : Handle} {id : Identifier}
    {family : Family World Instance} (keyless : id.key = none) :
    resolveAt (depth + 1) handle id family = (.error .wrongKind, family) := by
  simp only [resolveAt, keyless]

theorem resolveAt_of_unknown {depth : Nat} {handle : Handle} {id : Identifier} {key : Key}
    {family : Family World Instance} (named : id.key = some key)
    (absent : (family.container handle).find? id = none) :
    resolveAt (depth + 1) handle id family =
      (.error (.problem (.serviceNotRegistered id.text)), family) := by
  simp only [resolveAt, named, absent]

theorem resolveAt_of_inherits {depth : Nat} {handle : Handle} {id : Identifier} {key : Key}
    {registration : Registration World Instance} {family : Family World Instance}
    (named : id.key = some key) (found : (family.container handle).find? id = some registration)
    (single : registration.lifetime = .singleton)
    (inherited : family.inherits handle id registration = true) :
    resolveAt (depth + 1) handle id family = resolveAt depth Handle.root id family := by
  simp only [resolveAt, named, found, single, inherited, decide_true, Bool.and_self, if_true]

/-- The ways on that a container has when a service is resolved on it. -/
inductive Way (family : Family World Instance) (handle : Handle) (id : Identifier) : Prop where
  | unkeyed (keyless : id.key = none)
  | unknown {key : Key} (named : id.key = some key)
      (absent : (family.container handle).find? id = none)
  | inherited {key : Key} {registration : Registration World Instance}
      (named : id.key = some key)
      (found : (family.container handle).find? id = some registration)
      (single : registration.lifetime = .singleton)
      (inherited : family.inherits handle id registration = true)
  | creating {key : Key} {registration : Registration World Instance}
      (serves : family.Serves handle id key registration)
      (creating : family.IsCreating handle key)
  | free {key : Key} {registration : Registration World Instance}
      (serves : family.Serves handle id key registration)
      (free : ¬ family.IsCreating handle key)

theorem way (family : Family World Instance) (handle : Handle) (id : Identifier) :
    family.Way handle id := by
  cases named : id.key with
  | none => exact .unkeyed named
  | some key =>
      cases found : (family.container handle).find? id with
      | none => exact .unknown named found
      | some registration =>
          by_cases own : registration.lifetime = .singleton ∧
              family.inherits handle id registration = true
          · exact .inherited named found own.1 own.2
          · by_cases creating : family.IsCreating handle key
            · exact .creating ⟨named, found, own⟩ creating
            · exact .free ⟨named, found, own⟩ creating

/-- A run is what the container does. -/
theorem Runs.answer_eq {depth : Nat} {handle : Handle} {task : Task World Instance}
    {family after : Family World Instance} {trace : List (Event Instance)}
    {outcome : Outcome Instance} (runs : Runs depth handle task family trace outcome after) :
    answer depth handle task family = (outcome, after) := by
  induction runs with
  | tooDeep => rfl
  | unkeyed keyless => simp only [answer, resolveAt, keyless]
  | unknown named absent => simp only [answer, resolveAt, named, absent]
  | delegated named found single inherited _ onRoot =>
      simp only [answer, resolveAt, named, found, single, inherited]
      exact onRoot
  | circular serves creating => exact resolveAt_of_creating serves creating
  | kept serves free held =>
      rw [answer, resolveAt_of_free serves free, held]
  | made serves free missing _ cooked =>
      rw [answer] at cooked
      rw [answer, resolveAt_of_free serves free, missing, cooked]
  | failed serves free missing _ cooked =>
      rw [answer] at cooked
      rw [answer, resolveAt_of_free serves free, missing, cooked]
  | give | fail => rfl
  | read _ onward | write _ onward | known _ onward => exact onward
  | need _ _ asked onward =>
      simp only [answer] at asked onward ⊢
      rw [cook, asked]
      exact onward

/-! ### What a run leaves as it is -/

/-- A run registers nothing, makes no scope, and ends every creation that it begins. -/
theorem Runs.sameShape {depth : Nat} {handle : Handle} {task : Task World Instance}
    {family after : Family World Instance} {trace : List (Event Instance)}
    {outcome : Outcome Instance} (runs : Runs depth handle task family trace outcome after) :
    family.SameShape after := by
  induction runs with
  | tooDeep | unkeyed _ | unknown _ _ | circular _ _ | kept _ _ _ | give | fail => exact .refl _
  | delegated _ _ _ _ _ onRoot => exact onRoot
  | made _ _ _ _ cooked => exact cooked.leave.trans (.keep ..)
  | failed _ _ _ _ cooked => exact cooked.leave
  | read _ onward | known _ onward => exact onward
  | write _ onward =>
      exact ⟨onward.size, onward.nextSerial, onward.registrations, onward.creating⟩
  | need _ _ asked onward => exact asked.trans onward

end Family

end PageComposer.Service
