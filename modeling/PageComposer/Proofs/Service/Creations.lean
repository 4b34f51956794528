import PageComposer.Proofs.Service.Isolation
import PageComposer.Proofs.Service.Depth

/-!
# Creations

A `Creation` notes that a factory was run for a service on a container and what it came to.
`Family.creations` lists the creations of a resolution in the order in which they ended, also
those whose failure was caught on the way, and `Family.creationsAll` those of any number of
steps.

`Accounts` says how far such a list accounts for what a family keeps: an instance is kept
exactly if it was kept before or its creation is listed, and nothing is created that is kept
already.
-/

namespace PageComposer.Service

/-- A factory was run for a service on a container and has come to its end. -/
structure Creation (Instance : Type) where
  handle : Handle
  key : Key
  /-- The serial of the registration that the factory belongs to. -/
  serial : Nat
  outcome : Outcome Instance

namespace Family

variable {World Instance : Type}

/-- The instances of a service that were created on a container, in order. -/
def completions (handle : Handle) (key : Key) (log : List (Creation Instance)) : List Instance :=
  log.filterMap fun creation =>
    if creation.handle = handle ∧ creation.key = key then creation.outcome.toOption else none

def creationsIn (handle : Handle)
    (resolve : Identifier → Family World Instance → Outcome Instance × Family World Instance)
    (creations : Identifier → Family World Instance → List (Creation Instance)) :
    Recipe World Instance → Family World Instance → List (Creation Instance)
  | .give _, _ | .fail _, _ => []
  | .read rest, family => creationsIn handle resolve creations (rest family.world) family
  | .write world rest, family =>
      creationsIn handle resolve creations rest { family with world := world }
  | .known id rest, family =>
      creationsIn handle resolve creations (rest (family.isRegistered handle id)) family
  | .need id rest, family =>
      let (outcome, after) := resolve id family
      creations id family ++ creationsIn handle resolve creations (rest outcome) after

def creationsAt : Nat → Handle → Identifier → Family World Instance → List (Creation Instance)
  | 0, _, _, _ => []
  | depth + 1, handle, id, family =>
      match id.key with
      | none => []
      | some key =>
          match (family.container handle).find? id with
          | none => []
          | some registration =>
              if registration.lifetime = .singleton && family.inherits handle id registration then
                creationsAt depth Handle.root id family
              else if (family.container handle).creating.any fun other => other.key = some key then
                []
              else
                match family.kept? handle registration.lifetime key with
                | some _ => []
                | none =>
                    let entered := family.enter handle id
                    let outcome :=
                      (cook handle (resolveAt depth handle) registration.factory.create entered).1
                    creationsIn handle (resolveAt depth handle) (creationsAt depth handle)
                        registration.factory.create entered ++
                      [⟨handle, key, registration.serial, outcome⟩]

def creationsFor (depth : Nat) (handle : Handle) :
    Task World Instance → Family World Instance → List (Creation Instance)
  | .resolve id => creationsAt depth handle id
  | .cook recipe => creationsIn handle (resolveAt depth handle) (creationsAt depth handle) recipe

def creations (family : Family World Instance) (handle : Handle) (id : Identifier) :
    List (Creation Instance) :=
  creationsAt (family.depth handle) handle id family

def creationsOf (family : Family World Instance) :
    Step World Instance → List (Creation Instance)
  | .resolve handle id => family.creations handle id
  | .register .. | .createScope _ | .dispose _ => []

/-- The creations of steps that are performed one after the other. -/
def creationsAll (family : Family World Instance) :
    List (Step World Instance) → List (Creation Instance)
  | [] => []
  | step :: rest => family.creationsOf step ++ (family.perform step).creationsAll rest

variable {family between after : Family World Instance} {depth : Nat} {handle : Handle}
  {id : Identifier} {key : Key} {registration : Registration World Instance}
  {log early late : List (Creation Instance)}

/-! ### The creations of each way on -/

theorem creationsAt_of_unkeyed (keyless : id.key = none) :
    creationsAt (depth + 1) handle id family = [] := by
  simp only [creationsAt, keyless]

theorem creationsAt_of_unknown (named : id.key = some key)
    (absent : (family.container handle).find? id = none) :
    creationsAt (depth + 1) handle id family = [] := by
  simp only [creationsAt, named, absent]

theorem creationsAt_of_inherits (named : id.key = some key)
    (found : (family.container handle).find? id = some registration)
    (single : registration.lifetime = .singleton)
    (inherited : family.inherits handle id registration = true) :
    creationsAt (depth + 1) handle id family = creationsAt depth Handle.root id family := by
  simp only [creationsAt, named, found, single, inherited, decide_true, Bool.and_self, if_true]

theorem creationsAt_of_creating (serves : family.Serves handle id key registration)
    (creating : family.IsCreating handle key) :
    creationsAt (depth + 1) handle id family = [] := by
  have own : ¬ (registration.lifetime = .singleton && family.inherits handle id registration) := by
    simpa using serves.own
  simp only [creationsAt, serves.named, serves.found, if_neg own, any_creating_iff.mpr creating,
    if_true]

theorem creationsAt_of_kept {made : Instance} (serves : family.Serves handle id key registration)
    (free : ¬ family.IsCreating handle key)
    (held : family.kept? handle registration.lifetime key = some made) :
    creationsAt (depth + 1) handle id family = [] := by
  have own : ¬ (registration.lifetime = .singleton && family.inherits handle id registration) := by
    simpa using serves.own
  rw [← any_creating_iff] at free
  simp only [creationsAt, serves.named, serves.found, if_neg own, if_neg free, held]

theorem creationsAt_of_missing (serves : family.Serves handle id key registration)
    (free : ¬ family.IsCreating handle key)
    (missing : family.kept? handle registration.lifetime key = none) :
    creationsAt (depth + 1) handle id family =
      creationsFor depth handle (.cook registration.factory.create) (family.enter handle id) ++
        [⟨handle, key, registration.serial,
          (cook handle (resolveAt depth handle) registration.factory.create
            (family.enter handle id)).1⟩] := by
  have own : ¬ (registration.lifetime = .singleton && family.inherits handle id registration) := by
    simpa using serves.own
  rw [← any_creating_iff] at free
  simp only [creationsAt, serves.named, serves.found, if_neg own, if_neg free, missing,
    creationsFor]

@[simp] theorem completions_nil (handle : Handle) (key : Key) :
    completions handle key ([] : List (Creation Instance)) = [] :=
  rfl

theorem completions_append (handle : Handle) (key : Key) (early late : List (Creation Instance)) :
    completions handle key (early ++ late) =
      completions handle key early ++ completions handle key late :=
  List.filterMap_append

theorem mem_completions {made : Instance} :
    made ∈ completions handle key log ↔ ∃ serial, ⟨handle, key, serial, .ok made⟩ ∈ log := by
  constructor
  · intro member
    obtain ⟨⟨other, name, serial, outcome⟩, inside, same⟩ := List.mem_filterMap.mp member
    split at same
    · rename_i here
      obtain ⟨rfl, rfl⟩ := here
      cases outcome with
      | error fault => simp [Except.toOption] at same
      | ok found =>
          obtain rfl : found = made := by simpa [Except.toOption] using same
          exact ⟨serial, inside⟩
    · simp at same
  · rintro ⟨serial, inside⟩
    refine List.mem_filterMap.mpr ⟨_, inside, ?_⟩
    simp [Except.toOption]

/-! ### What creations account for -/

/-- A family became another one by these creations: each was of a service that was neither
kept nor being created, what is kept now was kept before or is their outcome, and nothing
was lost. -/
structure Accounts (family : Family World Instance) (log : List (Creation Instance))
    (after : Family World Instance) : Prop where
  shape : family.SameShape after
  due : ∀ creation ∈ log, ∃ id registration,
    family.Serves creation.handle id creation.key registration ∧
    registration.serial = creation.serial ∧
    ¬ family.IsCreating creation.handle creation.key ∧
    family.kept? creation.handle registration.lifetime creation.key = none
  held : ∀ other key registration,
    Table.get? (family.container other).registrations key = some registration →
    registration.lifetime.Keeps other →
      (after.kept? other registration.lifetime key).toList =
        (family.kept? other registration.lifetime key).toList ++ completions other key log
  others : ∀ other lifetime key, (∀ registration,
      Table.get? (family.container other).registrations key = some registration →
        registration.lifetime ≠ lifetime) →
    after.kept? other lifetime key = family.kept? other lifetime key
  rows : ∀ other, ∀ row ∈ after.rows other, row ∈ family.rows other ∨
    ∃ serial, ⟨other, row.1, serial, .ok row.2⟩ ∈ log

theorem Accounts.refl (family : Family World Instance) : family.Accounts [] family where
  shape := .refl family
  due _ member := absurd member List.not_mem_nil
  held _ _ _ _ _ := by rw [completions_nil, List.append_nil]
  others _ _ _ _ := rfl
  rows _ _ member := .inl member

theorem Accounts.written (family : Family World Instance) (world : World) :
    family.Accounts [] { family with world := world } where
  shape := ⟨rfl, rfl, fun _ => rfl, fun _ => rfl⟩
  due _ member := absurd member List.not_mem_nil
  held _ _ _ _ _ := by
    rw [completions_nil, List.append_nil]
    rfl
  others _ _ _ _ := rfl
  rows _ _ member := .inl member

theorem Accounts.stays (accounts : family.Accounts log after) {lifetime : Lifetime}
    {made : Instance} (held : family.kept? handle lifetime key = some made) :
    after.kept? handle lifetime key = some made := by
  by_cases registered : ∃ registration,
      Table.get? (family.container handle).registrations key = some registration ∧
        registration.lifetime = lifetime
  · obtain ⟨registration, found, rfl⟩ := registered
    have same := accounts.held handle key registration found (keeps_of_kept? held)
    rw [held, Option.toList_some, List.singleton_append] at same
    cases now : after.kept? handle registration.lifetime key with
    | none => simp [now] at same
    | some other =>
        rw [now, Option.toList_some, List.cons.injEq] at same
        rw [same.1]
  · rw [accounts.others handle lifetime key, held]
    intro registration found same
    exact registered ⟨registration, found, same⟩

/-- What is kept of a service was kept before, or the service was created. -/
theorem Accounts.origin (accounts : family.Accounts log after)
    (found : Table.get? (family.container handle).registrations key = some registration)
    {lifetime : Lifetime} {made : Instance}
    (held : after.kept? handle lifetime key = some made) :
    family.kept? handle lifetime key = some made ∨ registration.lifetime = lifetime ∧
      ⟨handle, key, registration.serial, .ok made⟩ ∈ log := by
  by_cases same : registration.lifetime = lifetime
  · subst same
    cases before : family.kept? handle registration.lifetime key with
    | some old =>
        left
        rw [← held, accounts.stays before]
    | none =>
        right
        have created := accounts.held handle key registration found (keeps_of_kept? held)
        rw [held, before, Option.toList_none, List.nil_append, Option.toList_some] at created
        obtain ⟨serial, member⟩ := mem_completions.mp (created ▸ List.mem_singleton_self made)
        obtain ⟨_, own, serves, rfl, -⟩ := accounts.due _ member
        obtain rfl : registration = own := Option.some.inj (found.symm.trans serves.get?)
        exact ⟨rfl, member⟩
  · left
    rw [← held]
    refine (accounts.others handle lifetime key ?_).symm
    intro own ownFound
    obtain rfl : registration = own := Option.some.inj (found.symm.trans ownFound)
    exact same

theorem Accounts.trans (left : family.Accounts early between)
    (right : between.Accounts late after) : family.Accounts (early ++ late) after where
  shape := left.shape.trans right.shape
  due := by
    intro creation member
    rcases List.mem_append.mp member with before | behind
    · exact left.due creation before
    · obtain ⟨id, registration, serves, serial, free, missing⟩ := right.due creation behind
      refine ⟨id, registration, serves.congr left.shape.registrations, serial, ?_, ?_⟩
      · rwa [IsCreating, left.shape.creating] at free
      · cases held : family.kept? creation.handle registration.lifetime creation.key with
        | none => rfl
        | some made => simp [left.stays held] at missing
  held := by
    intro other name registration found keeps
    have foundLater := found
    rw [← left.shape.registrations] at foundLater
    rw [completions_append, ← List.append_assoc, ← left.held other name registration found keeps]
    exact right.held other name registration foundLater keeps
  others := by
    intro other lifetime name apart
    rw [right.others other lifetime name, left.others other lifetime name apart]
    rwa [left.shape.registrations]
  rows := by
    intro other row member
    rcases right.rows other row member with before | ⟨serial, behind⟩
    · rcases left.rows other row before with start | ⟨serial, early⟩
      · exact .inl start
      · exact .inr ⟨serial, List.mem_append_left _ early⟩
    · exact .inr ⟨serial, List.mem_append_right _ behind⟩

/-- When a creation has come to its end, what was created in the course of it still accounts
for what is kept. -/
theorem Accounts.leave (inside : (family.enter handle id).Accounts log between) :
    family.Accounts log (between.leave handle) where
  shape := inside.shape.leave
  due := by
    intro creation member
    obtain ⟨other, registration, serves, serial, free, missing⟩ := inside.due creation member
    refine ⟨other, registration, serves.congr fun handle => registrations_enter family _ handle id,
      serial, fun creating => free (creating.enter _ _), ?_⟩
    rwa [kept?_enter] at missing
  held := by
    intro other name registration found keeps
    rw [← registrations_enter family handle other id] at found
    rw [kept?_leave, inside.held other name registration found keeps, kept?_enter]
  others := by
    intro other lifetime name apart
    rw [kept?_leave, inside.others other lifetime name, kept?_enter]
    rwa [registrations_enter]
  rows := by
    intro other row member
    rw [rows_leave] at member
    rw [← rows_enter family handle other id]
    exact inside.rows other row member

/-- A factory that has come to a fault leaves nothing behind. -/
theorem Accounts.failed {fault : Fault} (accounts : family.Accounts log after)
    (serves : family.Serves handle id key registration) (free : ¬ family.IsCreating handle key)
    (missing : family.kept? handle registration.lifetime key = none) :
    family.Accounts (log ++ [⟨handle, key, registration.serial, .error fault⟩]) after where
  shape := accounts.shape
  due := by
    intro creation member
    rcases List.mem_append.mp member with before | last
    · exact accounts.due creation before
    · obtain rfl := List.mem_singleton.mp last
      exact ⟨id, registration, serves, rfl, free, missing⟩
  held := by
    intro other name own found keeps
    rw [accounts.held other name own found keeps, completions_append]
    simp [completions, Except.toOption]
  others := accounts.others
  rows := by
    intro other row member
    rcases accounts.rows other row member with before | ⟨serial, behind⟩
    · exact .inl before
    · exact .inr ⟨serial, List.mem_append_left _ behind⟩

/-- What a factory has come to is kept, unless the container keeps nothing of the kind. -/
theorem Accounts.made {made : Instance} (accounts : family.Accounts log after)
    (serves : family.Serves handle id key registration) (free : ¬ family.IsCreating handle key)
    (missing : family.kept? handle registration.lifetime key = none)
    (first : completions handle key log = []) :
    family.Accounts (log ++ [⟨handle, key, registration.serial, .ok made⟩])
      (after.keep handle registration.lifetime key made) where
  shape := accounts.shape.trans (.keep ..)
  due := by
    intro creation member
    rcases List.mem_append.mp member with before | last
    · exact accounts.due creation before
    · obtain rfl := List.mem_singleton.mp last
      exact ⟨id, registration, serves, rfl, free, missing⟩
  held := by
    intro other name own found keeps
    rw [completions_append]
    by_cases here : other = handle ∧ name = key
    · obtain ⟨rfl, rfl⟩ := here
      obtain rfl : registration = own := Option.some.inj (serves.get?.symm.trans found)
      rw [kept?_keep made keeps, if_pos ⟨rfl, rfl, rfl⟩, missing, first]
      simp [completions, Except.toOption]
    · have apart : ¬ (handle = other ∧ key = name) := fun same => here ⟨same.1.symm, same.2.symm⟩
      have elsewhere : completions other name
          [(⟨handle, key, registration.serial, .ok made⟩ : Creation Instance)] = [] := by
        simp [completions, apart]
      rw [elsewhere, List.append_nil, ← accounts.held other name own found keeps]
      by_cases keepsHere : registration.lifetime.Keeps handle
      · rw [kept?_keep made keepsHere, if_neg fun same => here ⟨same.1, same.2.2⟩]
      · rw [keep_of_not_keeps made keepsHere]
  others := by
    intro other lifetime name apart
    rw [← accounts.others other lifetime name apart]
    by_cases keepsHere : registration.lifetime.Keeps handle
    · rw [kept?_keep made keepsHere, if_neg]
      rintro ⟨rfl, rfl, rfl⟩
      exact apart registration serves.get? rfl
    · rw [keep_of_not_keeps made keepsHere]
  rows := by
    intro other row member
    rcases mem_rows_keep member with old | ⟨rfl, rfl⟩
    · rcases accounts.rows other row old with before | ⟨serial, behind⟩
      · exact .inl before
      · exact .inr ⟨serial, List.mem_append_left _ behind⟩
    · exact .inr ⟨registration.serial, List.mem_append_right _ (List.mem_singleton_self _)⟩

theorem Accounts.completions_eq_nil (accounts : family.Accounts log after)
    (creating : family.IsCreating handle key) : completions handle key log = [] := by
  rw [List.eq_nil_iff_forall_not_mem]
  intro made member
  obtain ⟨serial, inside⟩ := mem_completions.mp member
  obtain ⟨-, -, -, -, free, -⟩ := accounts.due _ inside
  exact free creating

theorem isCreating_enter_self (named : id.key = some key) :
    (family.enter handle id).IsCreating handle key :=
  ⟨id, by simp [Family.enter], named⟩

/-- The creations of a run account for what it does. -/
theorem Runs.accounts {task : Task World Instance} {trace : List (Event Instance)}
    {outcome : Outcome Instance} (runs : Runs depth handle task family trace outcome after) :
    family.Accounts (creationsFor depth handle task family) after := by
  induction runs with
  | tooDeep | give | fail => exact .refl _
  | unkeyed keyless =>
      rw [creationsFor, creationsAt_of_unkeyed keyless]
      exact .refl _
  | unknown named absent =>
      rw [creationsFor, creationsAt_of_unknown named absent]
      exact .refl _
  | delegated named found single inherited _ onRoot =>
      rw [creationsFor, creationsAt_of_inherits named found single inherited]
      exact onRoot
  | circular serves creating =>
      rw [creationsFor, creationsAt_of_creating serves creating]
      exact .refl _
  | kept serves free held =>
      rw [creationsFor, creationsAt_of_kept serves free held]
      exact .refl _
  | made serves free missing cooked inside =>
      have came := cooked.answer_eq
      rw [answer] at came
      rw [creationsFor, creationsAt_of_missing serves free missing, came]
      -- The service was being created all along, so this is its only completion.
      exact inside.leave.made serves free missing
        (inside.completions_eq_nil (isCreating_enter_self serves.named))
  | failed serves free missing cooked inside =>
      have came := cooked.answer_eq
      rw [answer] at came
      rw [creationsFor, creationsAt_of_missing serves free missing, came]
      exact inside.leave.failed serves free missing
  | read _ onward | known _ onward => exact onward
  | @write depth handle world rest family after trace outcome _ onward =>
      exact (Accounts.written family world).trans onward
  | need asked _ first onward =>
      have came := asked.answer_eq
      rw [answer] at came
      rw [creationsFor, creationsIn, came]
      exact first.trans onward

theorem accounts_resolve (family : Family World Instance) (handle : Handle) (id : Identifier) :
    family.Accounts (family.creations handle id) (family.resolve handle id).2 := by
  obtain ⟨trace, runs⟩ := runs_resolveAt (family.depth handle) handle id family
  exact runs.accounts

/-- A resolution creates on its own container and on the root. -/
theorem Runs.handle_of_mem {task : Task World Instance} {trace : List (Event Instance)}
    {outcome : Outcome Instance} (runs : Runs depth handle task family trace outcome after)
    {creation : Creation Instance} (member : creation ∈ creationsFor depth handle task family) :
    creation.handle = handle ∨ creation.handle = Handle.root := by
  induction runs with
  | tooDeep | give | fail => cases member
  | unkeyed keyless =>
      rw [creationsFor, creationsAt_of_unkeyed keyless] at member
      cases member
  | unknown named absent =>
      rw [creationsFor, creationsAt_of_unknown named absent] at member
      cases member
  | delegated named found single inherited _ onRoot =>
      rw [creationsFor, creationsAt_of_inherits named found single inherited] at member
      exact .inr ((onRoot member).elim id id)
  | circular serves creating =>
      rw [creationsFor, creationsAt_of_creating serves creating] at member
      cases member
  | kept serves free held =>
      rw [creationsFor, creationsAt_of_kept serves free held] at member
      cases member
  | made serves free missing _ inside | failed serves free missing _ inside =>
      rw [creationsFor, creationsAt_of_missing serves free missing] at member
      rcases List.mem_append.mp member with before | last
      · exact inside before
      · obtain rfl := List.mem_singleton.mp last
        exact .inl rfl
  | read _ onward | write _ onward | known _ onward => exact onward member
  | need asked _ first onward =>
      have came := asked.answer_eq
      rw [answer] at came
      rw [creationsFor, creationsIn, came] at member
      rcases List.mem_append.mp member with before | behind
      · exact first before
      · exact onward behind

theorem handle_of_mem_creations {creation : Creation Instance}
    (member : creation ∈ family.creations handle id) :
    creation.handle = handle ∨ creation.handle = Handle.root := by
  obtain ⟨trace, runs⟩ := runs_resolveAt (family.depth handle) handle id family
  exact runs.handle_of_mem member

theorem Serves.of_key {other : Identifier} (serves : family.Serves handle id key registration)
    (named : other.key = some key) : family.Serves handle other key registration := by
  have same (handle : Handle) :
      (family.container handle).find? other = (family.container handle).find? id := by
    rw [Container.find?, Container.find?, named, serves.named]
  refine ⟨named, (same handle).trans serves.found, ?_⟩
  have own := serves.own
  rwa [inherits, ← same] at own

theorem resolveAt_fst_of_missing (serves : family.Serves handle id key registration)
    (free : ¬ family.IsCreating handle key)
    (missing : family.kept? handle registration.lifetime key = none) :
    (resolveAt (depth + 1) handle id family).1 =
      (cook handle (resolveAt depth handle) registration.factory.create
        (family.enter handle id)).1 := by
  rw [resolveAt_of_free serves free, missing]
  dsimp only
  split <;> simp only [*]

/-- A service of which nothing is kept is created anew when it is resolved, and what its
factory comes to is what the resolution comes to. -/
theorem creations_of_missing (serves : family.Serves handle id key registration)
    (free : ¬ family.IsCreating handle key)
    (missing : family.kept? handle registration.lifetime key = none) :
    ∃ before, family.creations handle id =
      before ++ [⟨handle, key, registration.serial, (family.resolve handle id).1⟩] := by
  rw [creations, resolve, Family.depth, creationsAt_of_missing serves free missing,
    resolveAt_fst_of_missing serves free missing]
  exact ⟨_, rfl⟩

theorem creations_of_kept {made : Instance} (serves : family.Serves handle id key registration)
    (free : ¬ family.IsCreating handle key)
    (held : family.kept? handle registration.lifetime key = some made) :
    family.creations handle id = [] ∧ family.resolve handle id = (.ok made, family) := by
  constructor
  · exact creationsAt_of_kept serves free held
  · rw [resolve, depth, resolveAt_of_free serves free, held]

theorem kept?_of_resolve {found : Instance} (serves : family.Serves handle id key registration)
    (free : ¬ family.IsCreating handle key) (keeps : registration.lifetime.Keeps handle)
    (came : (family.resolve handle id).1 = .ok found) :
    (family.resolve handle id).2.kept? handle registration.lifetime key = some found := by
  cases held : family.kept? handle registration.lifetime key with
  | some made =>
      rw [(creations_of_kept serves free held).2] at came ⊢
      cases came
      exact held
  | none =>
      obtain ⟨before, created⟩ := creations_of_missing serves free held
      have same := (accounts_resolve family handle id).held handle key registration serves.get? keeps
      have completed : found ∈ completions handle key (family.creations handle id) :=
        mem_completions.mpr ⟨registration.serial, by simp [created, came]⟩
      rw [held, Option.toList_none, List.nil_append] at same
      rw [← same] at completed
      exact Option.mem_toList.mp completed

end Family

end PageComposer.Service
