import PageComposer.Proofs.Service.Dependencies
import Mathlib.Data.List.Chain

/-!
# When a service can be resolved

`Family.resolve_verdict` is about containers whose services are made from providers and of
which nothing is being created.  A service comes to an instance exactly if all that is met by
following dependencies is registered and nothing met depends on itself.  Otherwise an
`Obstacle` is reported: something met is not registered, or a chain of services that is a
path of dependencies and comes back to a service on it.
-/

namespace PageComposer.Service.Family

variable {World Instance : Type}

section

variable (provider : Registration World Instance → Provider World Instance)
  (family : Family World Instance) (start : Place) (asked : Identifier)

/-- What stands in the way of a service that is asked for, and the fault that reports it. -/
inductive Obstacle : Fault → Prop where
  | unregistered
      (absent : Table.get? (family.container start.handle).registrations start.key = none) :
      Obstacle (.problem (.serviceNotRegistered asked.text))
  | missing {place : Place} {id : Identifier} (met : family.Reaches provider start place)
      (needed : family.Needs provider place (.service id))
      (absent : family.isRegistered place.handle id = false) :
      Obstacle (.problem (.serviceNotRegistered id.text))
  | unmet {place : Place} {className : String} {parameter : Parameter}
      (met : family.Reaches provider start place)
      (needed : family.Needs provider place (.unmet className parameter)) :
      Obstacle (Recipe.unresolved className parameter)
  /-- The services of the reported chain are met one after the other, each is needed by the
  one before it, and the last has come before. -/
  | circular {handle : Handle} {creating : List Identifier} {id : Identifier}
      {keys : List Key} {key : Key}
      (named : (creating ++ [id]).map Identifier.key = (keys ++ [key]).map some)
      (met : ∀ one ∈ keys, family.Reaches provider start ⟨handle, one⟩)
      (linked : (keys ++ [key]).IsChain fun one next =>
        family.DependsOn provider ⟨handle, one⟩ ⟨handle, next⟩)
      (again : key ∈ keys) :
      Obstacle (circular creating id)

/-- How far a resolution has come: nothing that is kept was lost, and whatever is kept in
addition can be resolved. -/
structure Progress (between : Family World Instance) : Prop where
  registrations : ∀ handle,
    (between.container handle).registrations = (family.container handle).registrations
  kept : ∀ handle lifetime key made, family.kept? handle lifetime key = some made →
    between.kept? handle lifetime key = some made
  sound : ∀ handle lifetime key made, between.kept? handle lifetime key = some made →
    family.kept? handle lifetime key = some made ∨ family.Resolvable provider ⟨handle, key⟩

/-- A step of a resolution comes to an instance only if a condition is met, and else reports
an obstacle. -/
structure Settles (condition : Prop) (result : Outcome Instance × Family World Instance) :
    Prop where
  progress : family.Progress provider result.2
  ok : ∀ made, result.1 = .ok made → condition
  error : ∀ fault, result.1 = .error fault → family.Obstacle provider start asked fault

/-- A service that is asked for on a container is registered there and can be resolved. -/
structure Granted (handle : Handle) (id : Identifier) : Prop where
  registered : family.isRegistered handle id = true
  resolvable : ∀ key, id.key = some key →
    family.Resolvable provider ⟨family.venue handle id, key⟩

def AllGranted (handle : Handle) (needs : List Need) : Prop :=
  ∀ need ∈ needs, ∃ id, need = .service id ∧ family.Granted provider handle id

/-- A service is asked for in the course of a resolution: on behalf of those that are being
created on the container, which are a path of dependencies. -/
structure Call (between : Family World Instance) (handle : Handle) (id : Identifier) (key : Key)
    (keys : List Key) : Prop where
  progress : family.Progress provider between
  rootIdle : handle ≠ Handle.root → (between.container Handle.root).creating = []
  named : id.key = some key
  reached : family.Reaches provider start ⟨family.venue handle id, key⟩
  creating : (between.container handle).creating.map Identifier.key = keys.map some
  met : ∀ one ∈ keys, family.Reaches provider start ⟨handle, one⟩
  linked : family.venue handle id = handle → (keys ++ [key]).IsChain fun one next =>
    family.DependsOn provider ⟨handle, one⟩ ⟨handle, next⟩
  reported : family.isRegistered handle id = false →
    family.Obstacle provider start asked (.problem (.serviceNotRegistered id.text))

end

variable {provider : Registration World Instance → Provider World Instance}
  {family between after : Family World Instance} {start : Place} {asked : Identifier}
  {handle : Handle} {id : Identifier} {key : Key} {keys : List Key}
  {registration : Registration World Instance}

/-! ### Progress -/

theorem Progress.refl (family : Family World Instance) : family.Progress provider family :=
  ⟨fun _ => rfl, fun _ _ _ _ held => held, fun _ _ _ _ held => .inl held⟩

theorem Progress.transfer (progress : family.Progress provider between)
    (registrations : ∀ handle,
      (after.container handle).registrations = (between.container handle).registrations)
    (kept : ∀ handle lifetime key,
      after.kept? handle lifetime key = between.kept? handle lifetime key) :
    family.Progress provider after where
  registrations handle := (registrations handle).trans (progress.registrations handle)
  kept handle lifetime key made held := by
    rw [kept]
    exact progress.kept handle lifetime key made held
  sound handle lifetime key made held := by
    rw [kept] at held
    exact progress.sound handle lifetime key made held

theorem Progress.enter (progress : family.Progress provider between) (handle : Handle)
    (id : Identifier) : family.Progress provider (between.enter handle id) :=
  progress.transfer (fun other => registrations_enter between handle other id)
    fun other _ _ => kept?_enter id other

theorem Progress.leave (progress : family.Progress provider between) (handle : Handle) :
    family.Progress provider (between.leave handle) :=
  progress.transfer (fun other => registrations_leave between handle other)
    fun other _ _ => kept?_leave other

theorem Progress.keep {lifetime : Lifetime} {made : Instance}
    (progress : family.Progress provider between)
    (missing : family.kept? handle lifetime key = none)
    (resolvable : family.Resolvable provider ⟨handle, key⟩) :
    family.Progress provider (between.keep handle lifetime key made) := by
  by_cases keeps : lifetime.Keeps handle
  · constructor
    · intro other
      exact ((SameShape.keep between handle lifetime key made).registrations other).trans
        (progress.registrations other)
    · intro other next name old held
      rw [kept?_keep made keeps, if_neg]
      · exact progress.kept other next name old held
      · rintro ⟨rfl, rfl, rfl⟩
        simp [missing] at held
    · intro other next name found held
      rw [kept?_keep made keeps] at held
      split at held
      · rename_i here
        obtain ⟨rfl, rfl, rfl⟩ := here
        exact .inr resolvable
      · exact progress.sound other next name found held
  · rw [keep_of_not_keeps made keeps]
    exact progress

theorem Progress.serves (progress : family.Progress provider between)
    (serves : between.Serves handle id key registration) :
    Table.get? (family.container handle).registrations key = some registration := by
  rw [← progress.registrations]
  exact serves.get?

theorem Progress.missing {lifetime : Lifetime} (progress : family.Progress provider between)
    (missing : between.kept? handle lifetime key = none) :
    family.kept? handle lifetime key = none := by
  cases before : family.kept? handle lifetime key with
  | none => rfl
  | some made => simp [progress.kept handle lifetime key made before] at missing

theorem Progress.isRegistered (progress : family.Progress provider between) :
    between.isRegistered = family.isRegistered :=
  isRegistered_congr progress.registrations

theorem Progress.venue (progress : family.Progress provider between) (handle : Handle)
    (id : Identifier) : family.venue handle id = between.venue handle id :=
  (venue_congr progress.registrations handle id).symm

/-! ### Recipes of providers -/

theorem Settles.of_ok {condition : Prop} {made : Instance}
    (progress : family.Progress provider between) (holds : condition) :
    family.Settles provider start asked condition (.ok made, between) where
  progress := progress
  ok _ _ := holds
  error fault same := by cases same

theorem Settles.of_error {condition : Prop} {fault : Fault}
    (progress : family.Progress provider between)
    (obstacle : family.Obstacle provider start asked fault) :
    family.Settles provider start asked condition (.error fault, between) where
  progress := progress
  ok made same := by cases same
  error other same := by
    cases same
    exact obstacle

theorem allGranted_nil (handle : Handle) : family.AllGranted provider handle [] :=
  fun _ member => absurd member List.not_mem_nil

theorem cook_require (handle : Handle)
    (resolve : Identifier → Family World Instance → Outcome Instance × Family World Instance)
    (id : Identifier) (rest : Instance → Recipe World Instance) (family : Family World Instance) :
    cook handle resolve (.require id rest) family =
      match resolve id family with
      | (.ok found, after) => cook handle resolve (rest found) after
      | (.error fault, after) => (.error fault, after) := by
  rw [Recipe.require, cook]
  rcases resolve id family with ⟨fault | found, after⟩ <;> rfl

/-- A recipe that asks for services in order comes to an instance only if all of them are
granted. -/
theorem cook_settles {entered : Family World Instance} {needs : List Need}
    {recipe : Recipe World Instance}
    {resolve : Identifier → Family World Instance → Outcome Instance × Family World Instance}
    (asks : recipe.Asks (family.isRegistered handle) needs)
    (resolves : ∀ id between, .service id ∈ needs → entered.SameShape between →
      family.Progress provider between → family.Settles provider start asked
        (family.Granted provider handle id) (resolve id between))
    (stays : ∀ id between, entered.SameShape between →
      entered.SameShape (resolve id between).2)
    (unmet : ∀ className parameter, .unmet className parameter ∈ needs →
      family.Obstacle provider start asked (Recipe.unresolved className parameter))
    (shape : entered.SameShape between) (progress : family.Progress provider between) :
    family.Settles provider start asked (family.AllGranted provider handle needs)
      (cook handle resolve recipe between) := by
  induction asks generalizing between with
  | give => exact .of_ok progress (allGranted_nil handle)
  | build =>
      exact .of_ok (progress.transfer (fun _ => rfl) fun _ _ _ => rfl) (allGranted_nil handle)
  | @known needs id rest onward induction =>
      have registered : between.isRegistered handle id = family.isRegistered handle id := by
        rw [progress.isRegistered]
      rw [cook, registered]
      exact induction resolves unmet shape progress
  | @service needs id rest onward induction =>
      have first := resolves id between List.mem_cons_self shape progress
      have still := stays id between shape
      rw [cook_require]
      rcases came : resolve id between with ⟨fault | found, after⟩ <;> rw [came] at first still
      · exact .of_error first.progress (first.error fault rfl)
      · have rest := induction found
          (fun id between member => resolves id between (List.mem_cons_of_mem _ member))
          (fun className parameter member => unmet _ _ (List.mem_cons_of_mem _ member))
          still first.progress
        refine ⟨rest.progress, ?_, rest.error⟩
        intro made same need member
        rcases List.mem_cons.mp member with rfl | later
        · exact ⟨id, rfl, first.ok found rfl⟩
        · exact rest.ok made same need later
  | @unmet needs className parameter =>
      exact .of_error progress (unmet className parameter List.mem_cons_self)

/-! ### Resolutions -/

theorem AllGranted.resolvable
    (all : family.AllGranted provider handle
      ((provider registration).needs (family.isRegistered handle)))
    (registered : Table.get? (family.container handle).registrations key = some registration) :
    family.Resolvable provider ⟨handle, key⟩ := by
  refine .built ⟨⟨registration, registered⟩, ?_⟩ ?_
  · rintro need ⟨own, found, -, member⟩
    obtain rfl : registration = own := Option.some.inj (registered.symm.trans found)
    obtain ⟨id, rfl, granted⟩ := all need member
    exact ⟨id, rfl, granted.registered⟩
  · rintro ⟨other, name⟩ ⟨id, ⟨own, found, -, member⟩, named, rfl⟩
    obtain rfl : registration = own := Option.some.inj (registered.symm.trans found)
    obtain ⟨_, ⟨⟩, granted⟩ := all _ member
    exact granted.resolvable name named

theorem Call.venue (call : family.Call provider start asked between handle id key keys)
    (serves : between.Serves handle id key registration) : family.venue handle id = handle := by
  rw [call.progress.venue, venue_of_serves serves]

theorem Call.reached_own (call : family.Call provider start asked between handle id key keys)
    (serves : between.Serves handle id key registration) :
    family.Reaches provider start ⟨handle, key⟩ := by
  have reached := call.reached
  rwa [call.venue serves] at reached

theorem Call.granted (call : family.Call provider start asked between handle id key keys)
    (found : (between.container handle).find? id = some registration)
    (resolvable : family.Resolvable provider ⟨family.venue handle id, key⟩) :
    family.Granted provider handle id where
  registered := by
    rw [← call.progress.isRegistered, isRegistered, found]
    rfl
  resolvable name named := by
    obtain rfl : key = name := Option.some.inj (call.named.symm.trans named)
    exact resolvable

/-- A singleton that is inherited is asked for on the root instead. -/
theorem Call.onRoot (call : family.Call provider start asked between handle id key keys)
    (found : (between.container handle).find? id = some registration)
    (single : registration.lifetime = .singleton)
    (inherited : between.inherits handle id registration = true) :
    family.Call provider start asked between Handle.root id key [] where
  progress := call.progress
  rootIdle atRoot := absurd rfl atRoot
  named := call.named
  reached := by
    have reached := call.reached
    rwa [call.progress.venue, venue_of_inherits found single inherited,
      ← family.venue_root id] at reached
  creating := by
    rw [call.rootIdle (ne_root_of_inherits inherited)]
    rfl
  met _ member := absurd member List.not_mem_nil
  linked _ := .singleton key
  reported absent := by
    obtain ⟨-, own, onRoot, -⟩ := (inherits_iff call.named).mp inherited
    rw [← call.progress.isRegistered, isRegistered, find?_of_key call.named, onRoot] at absent
    cases absent

/-- What a service needs that is being created is asked for in the course of the same
resolution. -/
theorem Call.needed {other : Identifier} {name : Key} {entered : Family World Instance}
    (call : family.Call provider start asked between handle id key keys)
    (serves : between.Serves handle id key registration)
    (missing : family.kept? handle registration.lifetime key = none)
    (needs : .service other ∈ (provider registration).needs (family.isRegistered handle))
    (named : other.key = some name) (shape : (between.enter handle id).SameShape entered)
    (progress : family.Progress provider entered) :
    family.Call provider start asked entered handle other name (keys ++ [key]) := by
  have needed : family.Needs provider ⟨handle, key⟩ (.service other) :=
    ⟨registration, call.progress.serves serves, missing, needs⟩
  have depends : family.DependsOn provider ⟨handle, key⟩ ⟨family.venue handle other, name⟩ :=
    ⟨other, needed, named, rfl⟩
  have reached := call.reached_own serves
  constructor
  · exact progress
  · intro inScope
    rw [shape.creating, Family.enter, container_modify_of_ne between _ (Ne.symm inScope)]
    exact call.rootIdle inScope
  · exact named
  · exact reached.tail depends
  · rw [shape.creating]
    simp [Family.enter, call.creating, call.named]
  · intro one member
    rcases List.mem_append.mp member with before | last
    · exact call.met one before
    · obtain rfl := List.mem_singleton.mp last
      exact reached
  · intro here
    rw [List.isChain_append]
    refine ⟨call.linked (call.venue serves), .singleton name, ?_⟩
    intro last isLast next isNext
    obtain rfl : key = last := by simpa using isLast
    obtain rfl : name = next := by simpa using isNext
    rwa [here] at depends
  · intro absent
    exact .missing reached needed absent

theorem Call.obstacle (call : family.Call provider start asked between handle id key keys)
    (serves : between.Serves handle id key registration)
    (creating : between.IsCreating handle key) :
    family.Obstacle provider start asked
      (circular (between.container handle).creating id) := by
  refine .circular ?_ call.met (call.linked (call.venue serves)) ?_
  · simp [call.creating, call.named]
  · obtain ⟨other, member, same⟩ := creating
    have inside : some key ∈ keys.map some := by
      rw [← call.creating, ← same]
      exact List.mem_map_of_mem member
    simpa using inside

section

variable (provider family start asked) in
def SettlesWithin (depth : Nat) : Prop :=
  ∀ {between : Family World Instance} {handle : Handle} {id : Identifier} {key : Key}
    {keys : List Key}, family.Provided provider handle →
    family.Call provider start asked between handle id key keys →
    between.bound handle ≤ depth →
    family.Settles provider start asked (family.Granted provider handle id)
      (resolveAt depth handle id between)

variable {depth : Nat}

theorem resolveAt_settles_of_inherits (within : family.SettlesWithin provider start asked depth)
    (onRoot : family.Provided provider Handle.root)
    (call : family.Call provider start asked between handle id key keys)
    (found : (between.container handle).find? id = some registration)
    (single : registration.lifetime = .singleton)
    (inherited : between.inherits handle id registration = true)
    (enough : between.bound Handle.root ≤ depth) :
    family.Settles provider start asked (family.Granted provider handle id)
      (resolveAt depth Handle.root id between) := by
  have settles := within onRoot (call.onRoot found single inherited) enough
  refine ⟨settles.progress, ?_, settles.error⟩
  intro made came
  have resolvable := (settles.ok made came).resolvable key call.named
  apply call.granted found
  rwa [call.progress.venue, venue_of_inherits found single inherited,
    ← family.venue_root id]

/-- A factory that is run for a service comes to an instance only if all that the service
needs is granted. -/
theorem cook_settles_of_serves (within : family.SettlesWithin provider start asked depth)
    (provided : family.Provided provider handle)
    (call : family.Call provider start asked between handle id key keys)
    (serves : between.Serves handle id key registration)
    (missing : family.kept? handle registration.lifetime key = none)
    (enough : (between.enter handle id).bound handle ≤ depth) :
    family.Settles provider start asked
      (family.AllGranted provider handle
        ((provider registration).needs (family.isRegistered handle)))
      (cook handle (resolveAt depth handle) registration.factory.create
        (between.enter handle id)) := by
  have registered := call.progress.serves serves
  refine cook_settles ?_ ?_ ?_ ?_ (.refl _) (call.progress.enter handle id)
  · rw [provided.recipe key registration registered]
    exact (provider registration).asks
  · intro other entered member shape progress
    obtain ⟨name, named⟩ := provided.keyed key registration other registered member
    apply within provided (call.needed serves missing member named shape progress)
    rwa [bound_congr shape]
  · intro other entered shape
    exact shape.trans (sameShape_resolveAt depth handle other entered)
  · intro className parameter member
    exact .unmet (call.reached_own serves) ⟨registration, registered, missing, member⟩

theorem resolveAt_settles_of_free (within : family.SettlesWithin provider start asked depth)
    (provided : family.Provided provider handle)
    (call : family.Call provider start asked between handle id key keys)
    (serves : between.Serves handle id key registration)
    (free : ¬ between.IsCreating handle key) (enough : between.bound handle ≤ depth + 1) :
    family.Settles provider start asked (family.Granted provider handle id)
      (resolveAt (depth + 1) handle id between) := by
  have registered := call.progress.serves serves
  have granted (resolvable : family.Resolvable provider ⟨handle, key⟩) :
      family.Granted provider handle id := by
    apply call.granted serves.found
    rwa [call.venue serves]
  rw [resolveAt_of_free serves free]
  cases held : between.kept? handle registration.lifetime key with
  | some made =>
      refine .of_ok call.progress (granted ?_)
      rcases call.progress.sound _ _ _ _ held with before | resolvable
      · exact .kept registered before
      · exact resolvable
  | none =>
      have missing := call.progress.missing held
      have less := bound_enter_lt serves free
      have cooked := cook_settles_of_serves within provided call serves missing (by omega)
      rcases came : cook handle (resolveAt depth handle) registration.factory.create
        (between.enter handle id) with ⟨fault | made, entered⟩ <;> rw [came] at cooked
      · exact .of_error (cooked.progress.leave handle) (cooked.error fault rfl)
      · have resolvable := (cooked.ok made rfl).resolvable registered
        exact .of_ok ((cooked.progress.leave handle).keep missing resolvable) (granted resolvable)

end

/-- A resolution that has enough depth comes to an instance only if the service is granted,
and else reports an obstacle. -/
theorem resolveAt_settles (onRoot : family.Provided provider Handle.root) (depth : Nat) :
    family.SettlesWithin provider start asked depth := by
  -- What is needed in the course of a creation is a call again, with one service more on its
  -- path and so with a smaller bound.
  induction depth with
  | zero =>
      intro between handle id key keys provided call enough
      have positive : 0 < between.bound handle := by
        rw [bound]
        split <;> omega
      omega
  | succ depth within =>
      intro between handle id key keys provided call enough
      cases between.way handle id with
      | unkeyed keyless => simp [call.named] at keyless
      | unknown named absent =>
          rw [resolveAt_of_unknown named absent]
          refine .of_error call.progress (call.reported ?_)
          rw [← call.progress.isRegistered, isRegistered, absent]
          rfl
      | inherited named found single inherited =>
          rw [resolveAt_of_inherits named found single inherited]
          rw [bound, if_neg (ne_root_of_inherits inherited)] at enough
          apply resolveAt_settles_of_inherits within onRoot call found single inherited
          rw [bound, if_pos rfl]
          omega
      | @creating own registration serves creating =>
          obtain rfl : own = key := Option.some.inj (serves.named.symm.trans call.named)
          rw [resolveAt_of_creating serves creating]
          exact .of_error call.progress (call.obstacle serves creating)
      | @free own registration serves free =>
          obtain rfl : own = key := Option.some.inj (serves.named.symm.trans call.named)
          exact resolveAt_settles_of_free within provided call serves free enough

/-! ### The verdict -/

theorem call_start (named : id.key = some key)
    (rootIdle : (family.container Handle.root).creating = [])
    (idle : (family.container handle).creating = []) :
    family.Call provider ⟨family.venue handle id, key⟩ id family handle id key [] where
  progress := .refl family
  rootIdle _ := rootIdle
  named := named
  reached := .refl
  creating := by rw [idle]; rfl
  met _ member := absurd member List.not_mem_nil
  linked _ := .singleton key
  reported absent := by
    have missing : (family.container handle).find? id = none := by simpa [isRegistered] using absent
    apply Obstacle.unregistered
    have venue : family.venue handle id = handle := by simp [Family.venue, missing]
    rw [venue]
    rwa [find?_of_key named] at missing

/-- A chain that comes back to a key on it goes round in a circle. -/
theorem transGen_of_isChain {relation : Key → Key → Prop}
    (linked : (keys ++ [key]).IsChain relation) (again : key ∈ keys) :
    Relation.TransGen relation key key := by
  have pairs : (keys ++ [key]).Pairwise (Relation.TransGen relation) :=
    (linked.imp fun _ _ => Relation.TransGen.single).pairwise
  exact (List.pairwise_append.mp pairs).2.2 key again key (List.mem_singleton_self key)

/-- Where an obstacle is reported, something met is not supplied or depends on itself. -/
theorem Obstacle.blocks {fault : Fault} (obstacle : family.Obstacle provider start asked fault) :
    ∃ place, family.Reaches provider start place ∧ (family.Supplied provider place →
      Relation.TransGen (family.DependsOn provider) place place) := by
  cases obstacle with
  | unregistered absent =>
      refine ⟨start, .refl, ?_⟩
      rintro ⟨⟨registration, found⟩, -⟩
      simp [found] at absent
  | @missing place id met needed absent =>
      refine ⟨place, met, ?_⟩
      intro supplied
      obtain ⟨_, ⟨⟩, registered⟩ := supplied.needs _ needed
      simp [registered] at absent
  | @unmet place className parameter met needed =>
      refine ⟨place, met, ?_⟩
      intro supplied
      obtain ⟨_, ⟨⟩, -⟩ := supplied.needs _ needed
  | @circular handle creating id keys key named met linked again =>
      refine ⟨⟨handle, key⟩, met key again, ?_⟩
      intro supplied
      exact (transGen_of_isChain linked again).lift (Place.mk handle) fun _ _ depends => depends

/-- Where services are made from providers and nothing is being created, resolving a service
comes to an end at a depth that is known before.  It comes to an instance exactly if all that
is met by following dependencies is registered and nothing met depends on itself, and else an
obstacle is reported. -/
theorem resolve_verdict (named : id.key = some key)
    (idle : (family.container handle).creating = [])
    (rootIdle : (family.container Handle.root).creating = [])
    (provided : family.Provided provider handle)
    (onRoot : family.Provided provider Handle.root) :
    (∀ depth, family.bound handle ≤ depth →
      resolveAt depth handle id family = family.resolve handle id) ∧
    ((∃ made, (family.resolve handle id).1 = .ok made) ↔
      ∀ place, family.Reaches provider ⟨family.venue handle id, key⟩ place →
        family.Supplied provider place ∧
          ¬ Relation.TransGen (family.DependsOn provider) place place) ∧
    ∀ fault, (family.resolve handle id).1 = .error fault →
      family.Obstacle provider ⟨family.venue handle id, key⟩ id fault := by
  have settles : family.Settles provider ⟨family.venue handle id, key⟩ id
      (family.Granted provider handle id) (family.resolve handle id) :=
    resolveAt_settles onRoot _ provided (call_start named rootIdle idle)
      (bound_le_depth family handle)
  refine ⟨fun depth enough => (resolve_eq enough).symm, ⟨?_, ?_⟩, settles.error⟩
  · rintro ⟨made, came⟩ place met
    have resolvable := ((settles.ok made came).resolvable key named).reaches met
    exact ⟨resolvable.supplied, resolvable.acyclic⟩
  · intro sound
    rcases came : (family.resolve handle id).1 with fault | made
    · obtain ⟨place, met, blocked⟩ := (settles.error fault came).blocks
      obtain ⟨supplied, acyclic⟩ := sound place met
      exact absurd (blocked supplied) acyclic
    · exact ⟨made, rfl⟩

/-! ### A page on a scope -/

/-- The root has a database that needs settings; on a scope there are a page that needs the
database, and two services that need each other. -/
def pageProviders : List (Provider Nat Nat) := [
  .value 7,
  .services [.ofText "settings"] fun found count => (found.headD 0 + count, count + 1),
  .type "Page" [⟨"database", none, false⟩, ⟨"theme", none, true⟩] fun found count =>
    (found.length + count, count + 1),
  .services [.ofText "right"] fun found count => (found.headD 0, count),
  .services [.ofText "left"] fun found count => (found.headD 0, count)]

def pageProvider (registration : Registration Nat Nat) : Provider Nat Nat :=
  pageProviders.getD registration.serial (.value 0)

def pageRegistration (serial : Nat) (lifetime : Lifetime) : Registration Nat Nat :=
  ⟨.ofRecipe (pageProviders.getD serial (.value 0)).recipe, lifetime, [], serial⟩

def pageRows : Table (Registration Nat Nat) := [
  (.text "settings", pageRegistration 0 .singleton),
  (.text "database", pageRegistration 1 .singleton)]

def pageScopeRows : Table (Registration Nat Nat) := pageRows ++ [
  (.text "page", pageRegistration 2 .perScope),
  (.text "left", pageRegistration 3 .transient),
  (.text "right", pageRegistration 4 .transient)]

def pageFamily : Family Nat Nat where
  world := 3
  container handle := ⟨if handle = Handle.root then pageRows else pageScopeRows, [], [], []⟩
  size := 2
  nextSerial := 5

theorem keyed_pageProviders {registered : Identifier → Bool} {asked : Identifier}
    {provider : Provider Nat Nat} (member : provider ∈ pageProviders)
    (needed : .service asked ∈ provider.needs registered) : ∃ name, asked.key = some name := by
  simp only [pageProviders, List.mem_cons, List.not_mem_nil, or_false] at member
  rcases member with rfl | rfl | rfl | rfl | rfl
  · cases needed
  · obtain ⟨⟩ := List.mem_singleton.mp needed
    exact ⟨_, rfl⟩
  · obtain ⟨parameter, inside, needed⟩ := List.mem_flatMap.mp needed
    rcases Parameter.service_mem_needs needed with rfl | annotated
    · exact ⟨_, rfl⟩
    · simp only [List.mem_cons, List.not_mem_nil, or_false] at inside
      rcases inside with rfl | rfl <;> simp at annotated
  all_goals
    obtain ⟨⟩ := List.mem_singleton.mp needed
    exact ⟨_, rfl⟩

theorem provided_pageFamily (handle : Handle) : pageFamily.Provided pageProvider handle := by
  have rows : (pageFamily.container handle).registrations = pageRows ∨
      (pageFamily.container handle).registrations = pageScopeRows := ite_eq_or_eq ..
  have row : ∀ row ∈ pageScopeRows, ∃ serial lifetime, serial < 5 ∧
      row.2 = pageRegistration serial lifetime := by
    simp only [pageScopeRows, pageRows, List.cons_append, List.nil_append, List.forall_mem_cons]
    exact ⟨⟨_, _, by decide, rfl⟩, ⟨_, _, by decide, rfl⟩, ⟨_, _, by decide, rfl⟩,
      ⟨_, _, by decide, rfl⟩, ⟨_, _, by decide, rfl⟩, nofun⟩
  have made {key : Key} {registration : Registration Nat Nat}
      (found : Table.get? (pageFamily.container handle).registrations key = some registration) :
      ∃ serial lifetime, serial < 5 ∧ registration = pageRegistration serial lifetime := by
    apply row (key, registration)
    have member := Table.mem_of_get? found
    rcases rows with same | same <;> rw [same] at member
    · exact List.mem_append_left _ member
    · exact member
  constructor
  · intro key registration found
    obtain ⟨serial, lifetime, -, rfl⟩ := made found
    rfl
  · intro key registration asked found needed
    obtain ⟨serial, lifetime, less, rfl⟩ := made found
    refine keyed_pageProviders ?_ needed
    simp only [pageProvider, pageRegistration]
    rw [List.getD_eq_getElem?_getD, List.getElem?_eq_getElem less]
    exact List.getElem_mem less

theorem resolve_verdict_page :
    (pageFamily.container 1).creating = [] ∧ (pageFamily.container Handle.root).creating = [] ∧
    pageFamily.Provided pageProvider 1 ∧ pageFamily.Provided pageProvider Handle.root ∧
    (pageFamily.resolve 1 (.ofText "page")).1 = .ok 5 ∧
    (∀ place, pageFamily.Reaches pageProvider ⟨1, .text "page"⟩ place →
      pageFamily.Supplied pageProvider place ∧
        ¬ Relation.TransGen (pageFamily.DependsOn pageProvider) place place) ∧
    (pageFamily.resolve 1 (.ofText "left")).1 =
      .error (circular [.ofText "left", .ofText "right"] (.ofText "left")) ∧
    pageFamily.Obstacle pageProvider ⟨1, .text "left"⟩ (.ofText "left")
      (circular [.ofText "left", .ofText "right"] (.ofText "left")) := by
  have onScope := provided_pageFamily 1
  have onRoot := provided_pageFamily Handle.root
  obtain ⟨-, verdict, -⟩ := resolve_verdict
    (show (Identifier.ofText "page").key = some (.text "page") from rfl) rfl rfl onScope onRoot
  obtain ⟨-, -, fault⟩ := resolve_verdict
    (show (Identifier.ofText "left").key = some (.text "left") from rfl) rfl rfl onScope onRoot
  have page : (pageFamily.resolve 1 (.ofText "page")).1 = .ok 5 := by rfl
  have left : (pageFamily.resolve 1 (.ofText "left")).1 =
      .error (circular [.ofText "left", .ofText "right"] (.ofText "left")) := by rfl
  exact ⟨rfl, rfl, onScope, onRoot, page, verdict.mp ⟨5, page⟩, left, fault _ left⟩

end PageComposer.Service.Family
