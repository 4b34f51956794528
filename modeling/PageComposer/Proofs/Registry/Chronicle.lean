import PageComposer.Proofs.Registry.Standing

/-!
# Runs of a registry with their history

A `Chronicle` is a hub that remembers which changes were made and which events were told, in
the order in which the registry changed.  It takes the same steps as the hub, so everything
that listeners do in the middle of a delivery is in it too.

`Chronicle.Matches` relates a way of performing changes on chronicles to one on hubs, and is
passed on from each depth of nesting to the next.
-/

namespace PageComposer

structure Chronicle where
  hub : Hub
  made : List Change
  told : List Event

/-- What a caller can do to a registry. -/
inductive Operation where
  | register (plugin : Plugin) (metadata : MetadataArgument)
  | unregister (id : Value)
  | setAllowlist (ids : Value)
  | loadAllowlist (source : Option Listing)
  | subscribe (event : Value) (listener : String)
  | unsubscribe (event : Value) (listener : String)

namespace Hub

def operate (audience : Audience) (operation : Operation) (hub : Hub) : Outcome Unit × Hub :=
  match operation with
  | .register plugin metadata => hub.perform audience (.register plugin metadata)
  | .unregister id => hub.perform audience (.unregister id)
  | .setAllowlist ids => hub.perform audience (.setAllowlist ids)
  | .loadAllowlist source =>
      let (outcome, after) := hub.loadAllowlist audience source
      (outcome.map fun _ => (), after)
  | .subscribe event listener => hub.listen audience .subscribe event listener
  | .unsubscribe event listener => hub.listen audience .unsubscribe event listener

def operateAll (audience : Audience) (operations : List Operation) (hub : Hub) : Hub :=
  operations.foldl (fun hub operation => (hub.operate audience operation).2) hub

end Hub

section

variable {World : Type} (registry : World → Registry)
  (ask : Change → World → Outcome Unit × World)

/-- The changes that a source asks for, in their order, before it gives its ids or fails. -/
def Listing.asked : Listing → World → List Change
  | .give _, _ | .fail _, _ => []
  | .look rest, world => asked (rest (registry world)) world
  | .ask change rest, world =>
      let (outcome, changed) := ask change world
      change :: asked (rest outcome) changed

namespace Operation

def listen (change : Subscription → Change) (event : Value) (listener : String)
    (world : World) : Outcome Unit × World :=
  match Subscription.under event listener with
  | .error fault => (.error fault, world)
  | .ok none => (.ok (), world)
  | .ok (some subscription) => ask (change subscription) world

/-- Do an operation in a world with a registry; `ask` performs the changes that come of it. -/
def run : Operation → World → Outcome Unit × World
  | .register plugin metadata, world => ask (.register plugin metadata) world
  | .unregister id, world => ask (.unregister id) world
  | .setAllowlist ids, world => ask (.setAllowlist ids) world
  | .loadAllowlist none, world => (.ok (), world)
  | .loadAllowlist (some listing), world =>
      let (outcome, after) := listing.load registry ask world
      (outcome.map fun _ => (), after)
  | .subscribe event listener, world => listen ask .subscribe event listener world
  | .unsubscribe event listener, world => listen ask .unsubscribe event listener world

end Operation

end

theorem Hub.operate_eq (audience : Audience) (operation : Operation) (hub : Hub) :
    hub.operate audience operation = operation.run Hub.registry (Hub.perform audience) hub := by
  cases operation with
  | register | unregister | setAllowlist | subscribe | unsubscribe => rfl
  | loadAllowlist source => cases source <;> rfl

/-! ### Operations that fail -/

section

variable {World : Type} {registry : World → Registry}
  {ask : Change → World → Outcome Unit × World}

variable (atomic : ∀ change world fault,
  (ask change world).1 = .error fault → (ask change world).2 = world)

include atomic

end

namespace Chronicle

def registry (chronicle : Chronicle) : Registry := chronicle.hub.registry

/-- The chronicle of a new registry. -/
def start (library : Schema.Library) : Chronicle := ⟨.of (.new library), [], []⟩

def run (ask : Change → Chronicle → Outcome Unit × Chronicle) : Reaction → Chronicle → Chronicle
  | .done, chronicle => chronicle
  | .fail, chronicle => chronicle
  | .note entry rest, chronicle =>
      run ask rest { chronicle with hub := chronicle.hub.write entry }
  | .ask change rest, chronicle =>
      let (outcome, after) := ask change chronicle
      run ask (rest outcome) after

def announce (react : String → Event → Reaction)
    (ask : Change → Chronicle → Outcome Unit × Chronicle) (event : Event)
    (chronicle : Chronicle) : Chronicle :=
  (chronicle.hub.registry.listeners event).foldl
    (fun chronicle listener => run ask (react listener event) chronicle)
    { chronicle with told := chronicle.told ++ [event] }

/-- The chronicle after a change that was made, before anybody is told of it. -/
def record (change : Change) (changed : Registry) (chronicle : Chronicle) : Chronicle :=
  { chronicle with
    hub := { chronicle.hub with registry := changed }
    made := chronicle.made ++ [change] }

def step (react : String → Event → Reaction)
    (ask : Change → Chronicle → Outcome Unit × Chronicle) (change : Change)
    (chronicle : Chronicle) : Outcome Unit × Chronicle :=
  match (Registry.Update.ofChange change).answer chronicle.registry with
  | (.error fault, left) =>
      (.error fault, { chronicle with hub := { chronicle.hub with registry := left } })
  | (.ok none, changed) => (.ok (), chronicle.record change changed)
  | (.ok (some event), changed) =>
      (.ok (), announce react ask event (chronicle.record change changed))

def performAt (react : String → Event → Reaction) :
    Nat → Change → Chronicle → Outcome Unit × Chronicle
  | 0 => step react fun _ chronicle => (.error (.misuse .tooDeep), chronicle)
  | depth + 1 => step react (performAt react depth)

def perform (audience : Audience) (change : Change) (chronicle : Chronicle) :
    Outcome Unit × Chronicle := performAt audience.react audience.depth change chronicle

def performAll (audience : Audience) (changes : List Change) (chronicle : Chronicle) :
    Chronicle :=
  changes.foldl (fun chronicle change => (chronicle.perform audience change).2) chronicle

def operate (audience : Audience) (operation : Operation) (chronicle : Chronicle) :
    Outcome Unit × Chronicle := operation.run registry (perform audience) chronicle

def operateAll (audience : Audience) (operations : List Operation) (chronicle : Chronicle) :
    Chronicle :=
  operations.foldl (fun chronicle operation => (chronicle.operate audience operation).2) chronicle

/-! ### Chronicles and hubs -/

/-- The changes that were made account for the registry. -/
def Accounts (chronicle : Chronicle) : Prop :=
  Registry.Reached chronicle.made chronicle.registry

/-- A way of performing changes on chronicles does to the hub what another does, and accounts
for it. -/
def Matches (ask : Change → Chronicle → Outcome Unit × Chronicle)
    (plain : Change → Hub → Outcome Unit × Hub) : Prop :=
  ∀ change chronicle,
    plain change chronicle.hub = ((ask change chronicle).1, (ask change chronicle).2.hub) ∧
      (chronicle.Accounts → (ask change chronicle).2.Accounts)

variable {ask : Change → Chronicle → Outcome Unit × Chronicle}
  {plain : Change → Hub → Outcome Unit × Hub}

theorem Matches.run (same : Matches ask plain) (reaction : Reaction) (chronicle : Chronicle) :
    Hub.run plain reaction chronicle.hub = (run ask reaction chronicle).hub ∧
      (chronicle.Accounts → (run ask reaction chronicle).Accounts) := by
  induction reaction generalizing chronicle with
  | done | fail => exact ⟨rfl, id⟩
  | note entry rest induction =>
      exact induction { chronicle with hub := chronicle.hub.write entry }
  | ask change rest induction =>
      obtain ⟨asked, accounts⟩ := same change chronicle
      obtain ⟨onward, accountsToo⟩ :=
        induction (ask change chronicle).1 (ask change chronicle).2
      refine ⟨?_, fun before => accountsToo (accounts before)⟩
      rw [Hub.run, asked]
      exact onward

theorem Matches.foldl (same : Matches ask plain) (react : String → Event → Reaction)
    (event : Event) (listeners : List String) (chronicle : Chronicle) :
    listeners.foldl (fun hub listener => Hub.run plain (react listener event) hub)
        chronicle.hub =
      (listeners.foldl (fun before listener => Chronicle.run ask (react listener event) before)
        chronicle).hub ∧
    (chronicle.Accounts →
      (listeners.foldl (fun before listener => Chronicle.run ask (react listener event) before)
        chronicle).Accounts) := by
  induction listeners generalizing chronicle with
  | nil => exact ⟨rfl, id⟩
  | cons listener rest induction =>
      obtain ⟨reacted, accounts⟩ := same.run (react listener event) chronicle
      obtain ⟨onward, accountsToo⟩ := induction (Chronicle.run ask (react listener event) chronicle)
      rw [List.foldl_cons, List.foldl_cons, reacted]
      exact ⟨onward, fun before => accountsToo (accounts before)⟩

theorem Matches.announce (same : Matches ask plain) (react : String → Event → Reaction)
    (event : Event) (chronicle : Chronicle) :
    Hub.announce react plain event chronicle.hub =
        (Chronicle.announce react ask event chronicle).hub ∧
      (chronicle.Accounts → (Chronicle.announce react ask event chronicle).Accounts) :=
  same.foldl react event (chronicle.hub.registry.listeners event)
    { chronicle with told := chronicle.told ++ [event] }

/-- A change is made, remembered and told, or it fails and leaves the chronicle as it was. -/
theorem step_eq (react : String → Event → Reaction)
    (ask : Change → Chronicle → Outcome Unit × Chronicle) (change : Change)
    (chronicle : Chronicle) :
    step react ask change chronicle =
      match chronicle.registry.change change with
      | .error fault => (.error fault, chronicle)
      | .ok (changed, none) => (.ok (), chronicle.record change changed)
      | .ok (changed, some event) =>
          (.ok (), announce react ask event (chronicle.record change changed)) := by
  rw [step, Registry.answer_ofChange]
  rcases chronicle.registry.change change with fault | ⟨changed, _ | event⟩ <;> rfl

/-- One step matches when the steps that it may nest do. -/
theorem Matches.step (same : Matches ask plain) (react : String → Event → Reaction) :
    Matches (Chronicle.step react ask) (Hub.step react plain) := by
  intro change chronicle
  rw [Hub.step_eq, Chronicle.step_eq]
  have shared : chronicle.hub.registry = chronicle.registry := rfl
  rw [shared]
  rcases made : chronicle.registry.change change with fault | ⟨changed, event⟩
  · exact ⟨rfl, id⟩
  · have accounts (before : chronicle.Accounts) : (chronicle.record change changed).Accounts :=
      .change before made
    cases event with
    | none => exact ⟨rfl, accounts⟩
    | some event =>
        obtain ⟨told, accountsToo⟩ := same.announce react event (chronicle.record change changed)
        refine ⟨?_, fun before => accountsToo (accounts before)⟩
        exact congrArg (Prod.mk (Except.ok ())) told

/-- A source goes through the same on both. -/
theorem Matches.listing (same : Matches ask plain) (listing : Listing) (chronicle : Chronicle) :
    listing.run Hub.registry plain chronicle.hub =
        ((listing.run registry ask chronicle).1, (listing.run registry ask chronicle).2.hub) ∧
      (chronicle.Accounts → (listing.run registry ask chronicle).2.Accounts) := by
  induction listing generalizing chronicle with
  | give | fail => exact ⟨rfl, id⟩
  | look rest induction => exact induction chronicle.registry chronicle
  | ask change rest induction =>
      obtain ⟨asked, accounts⟩ := same change chronicle
      obtain ⟨onward, accountsToo⟩ := induction (ask change chronicle).1 (ask change chronicle).2
      refine ⟨?_, fun before => accountsToo (accounts before)⟩
      rw [Listing.run, asked]
      exact onward

theorem Matches.load (same : Matches ask plain) (listing : Listing) (chronicle : Chronicle) :
    listing.load Hub.registry plain chronicle.hub =
        ((listing.load registry ask chronicle).1, (listing.load registry ask chronicle).2.hub) ∧
      (chronicle.Accounts → (listing.load registry ask chronicle).2.Accounts) := by
  obtain ⟨listed, accounts⟩ := same.listing listing chronicle
  rw [Listing.load, Listing.load, listed]
  -- What the source did stays, also when it gives no ids in the end.
  rcases came : listing.run registry ask chronicle with ⟨fault | ids, after⟩
  · rw [came] at accounts
    exact ⟨rfl, accounts⟩
  · obtain ⟨allowed, accountsToo⟩ := same (.setAllowlist ids) after
    rw [came] at accounts
    dsimp only
    rw [allowed]
    exact ⟨rfl, fun before => accountsToo (accounts before)⟩

theorem Matches.operation (same : Matches ask plain) (operation : Operation)
    (chronicle : Chronicle) :
    operation.run Hub.registry plain chronicle.hub =
        ((operation.run registry ask chronicle).1,
          (operation.run registry ask chronicle).2.hub) ∧
      (chronicle.Accounts → (operation.run registry ask chronicle).2.Accounts) := by
  cases operation with
  | register | unregister | setAllowlist => exact same _ chronicle
  | loadAllowlist source =>
      cases source with
      | none => exact ⟨rfl, id⟩
      | some listing =>
          obtain ⟨loaded, accounts⟩ := same.load listing chronicle
          refine ⟨?_, accounts⟩
          rw [Operation.run, loaded]
          rfl
  | subscribe event listener | unsubscribe event listener =>
      simp only [Operation.run, Operation.listen]
      rcases Subscription.under event listener with fault | _ | subscription
      · exact ⟨rfl, id⟩
      · exact ⟨rfl, id⟩
      · exact same _ chronicle

/-- A source that registers a plugin and then fails: the plugin stays, as after any registration,
and the load has done nothing. -/
example :
    let plain : Plugin := ⟨.str "Box", .null, none, none⟩
    let listing : Listing := .ask (.register plain .absent) fun _ => .fail .wrongKind
    let (outcome, chronicle) := (start .none).operate .silent (.loadAllowlist (some listing))
    outcome = .error .wrongKind ∧ chronicle.told = [.registered "Box"] ∧
      chronicle.hub.registry.types = ["Box"] ∧ chronicle.hub.registry.allowlist = none :=
  ⟨rfl, rfl, rfl, rfl⟩

/-- A plugin that is taken back leaves no schema to the next one of its id. -/
example :
    let strict : Plugin := ⟨.str "Box", .object [("type", .str "object")], none, none⟩
    let plain : Plugin := ⟨.str "Box", .null, none, none⟩
    let chronicle := (start .none).operateAll .silent [.register strict .absent,
      .register plain .absent, .unregister (.str "Box"), .register plain .absent]
    chronicle.told = [.registered "Box", .unregistered "Box", .registered "Box"] ∧
      chronicle.hub.registry.types = ["Box"] ∧
      chronicle.hub.registry.validator? "Box" = none :=
  ⟨rfl, rfl, rfl⟩

end Chronicle

end PageComposer
