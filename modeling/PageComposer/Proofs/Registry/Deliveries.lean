import PageComposer.Proofs.Registry.Chronicle
import PageComposer.Proofs.Registry.Deeds

/-!
# Who hears of a change, and when

Here listeners may remember what they have seen, look at the registry, and go by both; so may
whoever calls the registry.  The reactions of an audience are the case in which a listener does
the same about an event every time, and the memory is the journal.

Performing a change gives the deeds that come of it.  These lead from the registry before to the
one after, everybody who listens is told, and the log of a recorder that is told first accounts
for what is registered and allowed.
-/

namespace PageComposer

/-- What somebody does who has a memory, which may be shared with others. -/
inductive Conduct (Memory : Type) where
  | done
  | fail
  | look (rest : Registry → Memory → Conduct Memory)
  | keep (memory : Memory) (rest : Conduct Memory)
  | ask (change : Change) (rest : Outcome Unit → Conduct Memory)

/-- Listeners with a memory, each known by its name, and how deep their callbacks may nest. -/
structure Crowd (Memory : Type) where
  conduct : String → Event → Conduct Memory
  depth : Nat

structure Scene (Memory : Type) where
  registry : Registry
  memory : Memory

/-- What comes of a change that is asked for. -/
structure Performance (Memory : Type) where
  outcome : Outcome Unit
  scene : Scene Memory
  deeds : List Deed

namespace Crowd

variable {Memory : Type}

/-- Do as a conduct says; `ask` performs the changes that it asks for. -/
def follow (ask : Change → Scene Memory → Performance Memory) :
    Conduct Memory → Scene Memory → Scene Memory × List Deed
  | .done, scene => (scene, [])
  | .fail, scene => (scene, [])
  | .look rest, scene => follow ask (rest scene.registry scene.memory) scene
  | .keep memory rest, scene => follow ask rest { scene with memory := memory }
  | .ask change rest, scene =>
      let performed := ask change scene
      let (after, deeds) := follow ask (rest performed.outcome) performed.scene
      (after, performed.deeds ++ deeds)

def tell (conduct : String → Event → Conduct Memory)
    (ask : Change → Scene Memory → Performance Memory) (event : Event) :
    List String → Scene Memory → Scene Memory × List (String × List Deed)
  | [], scene => (scene, [])
  | listener :: rest, scene =>
      let (between, deeds) := follow ask (conduct listener event) scene
      let (after, heard) := tell conduct ask event rest between
      (after, (listener, deeds) :: heard)

def step (conduct : String → Event → Conduct Memory)
    (ask : Change → Scene Memory → Performance Memory) (change : Change)
    (scene : Scene Memory) : Performance Memory :=
  match scene.registry.change change with
  | .error fault => ⟨.error fault, scene, []⟩
  | .ok (changed, none) =>
      ⟨.ok (), { scene with registry := changed }, [.quiet change changed]⟩
  | .ok (changed, some event) =>
      let (after, heard) :=
        tell conduct ask event (changed.listeners event) { scene with registry := changed }
      ⟨.ok (), after, [.told change changed event heard]⟩

def performAt (conduct : String → Event → Conduct Memory) :
    Nat → Change → Scene Memory → Performance Memory
  | 0 => step conduct fun _ scene => ⟨.error (.misuse .tooDeep), scene, []⟩
  | depth + 1 => step conduct (performAt conduct depth)

/-- What becomes of a registry that somebody calls before a crowd, and what happens. -/
def run (crowd : Crowd Memory) (caller : Conduct Memory) (scene : Scene Memory) :
    Scene Memory × List Deed :=
  follow (performAt crowd.conduct crowd.depth) caller scene

end Crowd

/-! ### An audience is a crowd -/

/-- A reaction as a conduct, with the journal for a memory. -/
def Reaction.conduct : Reaction → Conduct (List Value)
  | .done => .done
  | .fail => .fail
  | .note entry rest => .look fun _ journal => .keep (journal ++ [entry]) rest.conduct
  | .ask change rest => .ask change fun outcome => (rest outcome).conduct

def Audience.crowd (audience : Audience) : Crowd (List Value) :=
  ⟨fun listener event => (audience.react listener event).conduct, audience.depth⟩

def Hub.scene (hub : Hub) : Scene (List Value) := ⟨hub.registry, hub.journal⟩

/-- A source of ids lists them, which makes them the allowlist, and then somebody goes on. -/
def Listing.conduct {Memory : Type} (next : Conduct Memory) : Listing → Conduct Memory
  | .give ids => .ask (.setAllowlist ids) fun _ => next
  | .fail _ => next
  | .look rest => .look fun registry _ => (rest registry).conduct next
  | .ask change rest => .ask change fun outcome => (rest outcome).conduct next

/-- A subscription is made or taken back, if a listener can be subscribed, and then somebody goes
on. -/
def Subscription.conduct {Memory : Type} (next : Conduct Memory)
    (change : Subscription → Change) (event : Value) (listener : String) : Conduct Memory :=
  match Subscription.under event listener with
  | .ok (some subscription) => .ask (change subscription) fun _ => next
  | _ => next

/-- Operations that are called one after another, whatever comes of them. -/
def Operation.inTurn {Memory : Type} : List Operation → Conduct Memory
  | [] => .done
  | operation :: rest =>
      match operation with
      | .register plugin metadata => .ask (.register plugin metadata) fun _ => inTurn rest
      | .unregister id => .ask (.unregister id) fun _ => inTurn rest
      | .setAllowlist ids => .ask (.setAllowlist ids) fun _ => inTurn rest
      | .loadAllowlist none => inTurn rest
      | .loadAllowlist (some listing) => listing.conduct (inTurn rest)
      | .subscribe event listener => Subscription.conduct (inTurn rest) .subscribe event listener
      | .unsubscribe event listener =>
          Subscription.conduct (inTurn rest) .unsubscribe event listener

namespace Crowd

section

/-- Two ways of performing changes do the same. -/
def Mirrors (ask : Change → Scene (List Value) → Performance (List Value))
    (plain : Change → Hub → Outcome Unit × Hub) : Prop :=
  ∀ change hub, (ask change hub.scene).outcome = (plain change hub).1 ∧
    (ask change hub.scene).scene = (plain change hub).2.scene

variable {ask : Change → Scene (List Value) → Performance (List Value)}
  {plain : Change → Hub → Outcome Unit × Hub}

theorem Mirrors.follow (mirrors : Mirrors ask plain) (reaction : Reaction) (hub : Hub) :
    (follow ask reaction.conduct hub.scene).1 = (Hub.run plain reaction hub).scene := by
  induction reaction generalizing hub with
  | done | fail => rfl
  | note entry rest induction => exact induction (hub.write entry)
  | ask change rest induction =>
      obtain ⟨outcome, scene⟩ := mirrors change hub
      have onward := induction (plain change hub).1 (plain change hub).2
      simpa only [Reaction.conduct, Crowd.follow, Hub.run, outcome, scene] using onward

theorem Mirrors.tell (mirrors : Mirrors ask plain) (audience : Audience) (event : Event)
    (listeners : List String) (hub : Hub) :
    (tell audience.crowd.conduct ask event listeners hub.scene).1 =
      (listeners.foldl (fun hub listener => Hub.run plain (audience.react listener event) hub)
        hub).scene := by
  induction listeners generalizing hub with
  | nil => rfl
  | cons listener rest induction =>
      have reacted : (Crowd.follow ask (audience.crowd.conduct listener event) hub.scene).1 =
          (Hub.run plain (audience.react listener event) hub).scene :=
        mirrors.follow (audience.react listener event) hub
      rw [Crowd.tell, List.foldl_cons, ← induction, ← reacted]

theorem Mirrors.step (mirrors : Mirrors ask plain) (audience : Audience) :
    Mirrors (step audience.crowd.conduct ask) (Hub.step audience.react plain) := by
  intro change hub
  unfold Crowd.step
  rw [Hub.step_eq]
  have same : hub.scene.registry = hub.registry := rfl
  rw [same]
  rcases hub.registry.change change with fault | ⟨changed, event⟩
  · exact ⟨rfl, rfl⟩
  · cases event with
    | none => exact ⟨rfl, rfl⟩
    | some event =>
        exact ⟨rfl, mirrors.tell audience event (changed.listeners event)
          { hub with registry := changed }⟩

theorem mirrors_performAt (audience : Audience) (depth : Nat) :
    Mirrors (performAt audience.crowd.conduct depth) (Hub.performAt audience.react depth) := by
  induction depth with
  | zero => exact Mirrors.step (fun _ _ => ⟨rfl, rfl⟩) audience
  | succ depth induction => exact induction.step audience

theorem Mirrors.ask_done (mirrors : Mirrors ask plain) (change : Change)
    (next : Conduct (List Value)) (hub : Hub) :
    (Crowd.follow ask (.ask change fun _ => next) hub.scene).1 =
      (Crowd.follow ask next (plain change hub).2.scene).1 := by
  rw [Crowd.follow, (mirrors change hub).2]

theorem Mirrors.listing (mirrors : Mirrors ask plain) (listing : Listing)
    (next : Conduct (List Value)) (hub : Hub) :
    (Crowd.follow ask (listing.conduct next) hub.scene).1 =
      (Crowd.follow ask next (listing.load Hub.registry plain hub).2.scene).1 := by
  induction listing generalizing hub with
  | give ids => exact mirrors.ask_done (.setAllowlist ids) next hub
  | fail fault => rfl
  | look rest induction => exact induction hub.registry hub
  | ask change rest induction =>
      obtain ⟨outcome, scene⟩ := mirrors change hub
      have onward := induction (plain change hub).1 (plain change hub).2
      have loaded : (Listing.ask change rest).load Hub.registry plain hub =
          (rest (plain change hub).1).load Hub.registry plain (plain change hub).2 := rfl
      rw [loaded, ← onward, Listing.conduct, Crowd.follow, outcome, scene]

theorem Mirrors.listen (mirrors : Mirrors ask plain) (change : Subscription → Change)
    (event : Value) (listener : String) (next : Conduct (List Value)) (hub : Hub) :
    (Crowd.follow ask (Subscription.conduct next change event listener) hub.scene).1 =
      (Crowd.follow ask next (Operation.listen plain change event listener hub).2.scene).1 := by
  unfold Subscription.conduct Operation.listen
  rcases Subscription.under event listener with fault | _ | subscription
  · rfl
  · rfl
  · exact mirrors.ask_done (change subscription) next hub

theorem Mirrors.inTurn (mirrors : Mirrors ask plain) (operations : List Operation) (hub : Hub) :
    (Crowd.follow ask (Operation.inTurn operations) hub.scene).1 =
      (operations.foldl (fun hub operation => (operation.run Hub.registry plain hub).2)
        hub).scene := by
  induction operations generalizing hub with
  | nil => rfl
  | cons operation rest induction =>
      rw [List.foldl_cons, ← induction]
      cases operation with
      | register | unregister | setAllowlist => exact mirrors.ask_done _ _ hub
      | loadAllowlist source =>
          cases source with
          | none => rfl
          | some listing => exact mirrors.listing listing _ hub
      | subscribe event listener => exact mirrors.listen .subscribe event listener _ hub
      | unsubscribe event listener => exact mirrors.listen .unsubscribe event listener _ hub

theorem run_inTurn (audience : Audience) (operations : List Operation) (hub : Hub) :
    (audience.crowd.run (Operation.inTurn operations) hub.scene).1 =
      (hub.operateAll audience operations).scene := by
  have mirrors : Mirrors (performAt audience.crowd.conduct audience.crowd.depth)
      (Hub.perform audience) := mirrors_performAt audience audience.depth
  simp only [Hub.operateAll, Hub.operate_eq]
  exact mirrors.inTurn operations hub

end

/-! ### Deeds and what comes of them -/

section

variable {Memory : Type}

/-- What comes of every change that is asked for is due to its deeds. -/
def Tracked (ask : Change → Scene Memory → Performance Memory) : Prop :=
  ∀ change (scene : Scene Memory),
    scene.registry.Becomes (ask change scene).deeds (ask change scene).scene.registry

variable {ask : Change → Scene Memory → Performance Memory}

theorem Tracked.follow (tracked : Tracked ask) (conduct : Conduct Memory)
    (scene : Scene Memory) :
    scene.registry.Becomes (follow ask conduct scene).2
      (follow ask conduct scene).1.registry := by
  induction conduct generalizing scene with
  | done | fail => exact .nothing
  | look rest induction => exact induction scene.registry scene.memory scene
  | keep memory rest induction => exact induction { scene with memory := memory }
  | ask change rest induction =>
      apply Registry.Becomes.append (tracked change scene)
      exact induction (ask change scene).outcome (ask change scene).scene

theorem Tracked.tell (tracked : Tracked ask) (conduct : String → Event → Conduct Memory)
    (event : Event) (listeners : List String) (scene : Scene Memory) :
    scene.registry.Hears event (tell conduct ask event listeners scene).2
      (tell conduct ask event listeners scene).1.registry := by
  induction listeners generalizing scene with
  | nil => exact .nothing
  | cons listener rest induction =>
      apply Registry.Hears.cons (tracked.follow (conduct listener event) scene)
      exact induction (Crowd.follow ask (conduct listener event) scene).1

theorem map_fst_tell (conduct : String → Event → Conduct Memory) (event : Event)
    (listeners : List String) (scene : Scene Memory) :
    (tell conduct ask event listeners scene).2.map Prod.fst = listeners := by
  induction listeners generalizing scene with
  | nil => rfl
  | cons listener rest induction => simp [tell, induction]

theorem Tracked.step (tracked : Tracked ask) (conduct : String → Event → Conduct Memory) :
    Tracked (step conduct ask) := by
  intro change scene
  unfold Crowd.step
  rcases accepted : scene.registry.change change with fault | ⟨changed, event⟩
  · exact .nothing
  · cases event with
    | none => exact .quiet accepted
    | some event =>
        apply Registry.Becomes.told accepted
        · exact map_fst_tell conduct event (changed.listeners event) _
        · exact tracked.tell conduct event (changed.listeners event)
            { scene with registry := changed }

theorem tracked_performAt (conduct : String → Event → Conduct Memory) (depth : Nat) :
    Tracked (performAt conduct depth) := by
  induction depth with
  | zero => exact Tracked.step (fun _ _ => .nothing) conduct
  | succ depth induction => exact induction.step conduct

theorem becomes_run (crowd : Crowd Memory) (caller : Conduct Memory) (scene : Scene Memory) :
    scene.registry.Becomes (crowd.run caller scene).2 (crowd.run caller scene).1.registry :=
  (tracked_performAt crowd.conduct crowd.depth).follow caller scene

theorem step_cases (conduct : String → Event → Conduct Memory) (change : Change)
    (scene : Scene Memory) :
    (∃ fault, step conduct ask change scene = ⟨.error fault, scene, []⟩) ∨
      ∃ changed event deed, scene.registry.change change = .ok (changed, event) ∧
        (step conduct ask change scene).outcome = .ok () ∧
        (step conduct ask change scene).deeds = [deed] ∧
        deed.marks.head? = some (.made change changed event) := by
  unfold step
  rcases scene.registry.change change with fault | ⟨changed, event⟩
  · exact .inl ⟨fault, rfl⟩
  · right
    cases event with
    | none => exact ⟨changed, none, _, rfl, rfl, rfl, rfl⟩
    | some event => exact ⟨changed, some event, _, rfl, rfl, rfl, rfl⟩

/-- A change that is asked for is refused and nothing happens, or it is made at once, and
whatever else happens is due to those who are told. -/
theorem performAt_cases (conduct : String → Event → Conduct Memory) (depth : Nat)
    (change : Change) (scene : Scene Memory) :
    (∃ fault, performAt conduct depth change scene = ⟨.error fault, scene, []⟩) ∨
      ∃ changed event deed, scene.registry.change change = .ok (changed, event) ∧
        (performAt conduct depth change scene).outcome = .ok () ∧
        (performAt conduct depth change scene).deeds = [deed] ∧
        deed.marks.head? = some (.made change changed event) := by
  cases depth with
  | zero => exact step_cases conduct change scene
  | succ depth => exact step_cases conduct change scene

def opening (library : Schema.Library) (subscriptions : List Subscription) (memory : Memory) :
    Scene Memory :=
  ⟨{ Registry.new library with subscriptions := subscriptions }, memory⟩

theorem sound_opening (library : Schema.Library) (subscriptions : List Subscription)
    (memory : Memory) : (opening library subscriptions memory).registry.Sound := by
  have empty := Registry.sound_new library
  exact ⟨empty.distinct, empty.named, empty.described, empty.compiled, empty.unregistered⟩

/-- A hub makes changes and goes through operations as the crowd of its audience does.  In every
run before a crowd, whatever the listeners remember and go by, the deeds lead from the first
registry to the last one, and everybody who listens is told of each change, once for each
subscription and in their order.  What anybody asks for is refused without a deed, or is a deed by
itself.  A recorder that is first under every event of a new registry, and is neither taken back
nor subscribed once more, is told of each change of what is registered or allowed with one event,
in the order in which the changes are made, and what it is told accounts for what is registered
and allowed in the end. -/
theorem deliveries :
    (∀ (audience : Audience) (hub : Hub),
      (∀ depth change,
        (performAt audience.crowd.conduct depth change hub.scene).outcome =
            (hub.performAt audience.react depth change).1 ∧
          (performAt audience.crowd.conduct depth change hub.scene).scene =
            (hub.performAt audience.react depth change).2.scene) ∧
        ∀ operations, (audience.crowd.run (Operation.inTurn operations) hub.scene).1 =
          (hub.operateAll audience operations).scene) ∧
      ∀ {Memory : Type} (crowd : Crowd Memory),
        (∀ caller (scene : Scene Memory), scene.registry.Becomes (crowd.run caller scene).2
          (crowd.run caller scene).1.registry) ∧
        (∀ depth change (scene : Scene Memory),
          (∃ fault, performAt crowd.conduct depth change scene = ⟨.error fault, scene, []⟩) ∨
            ∃ changed event deed, scene.registry.change change = .ok (changed, event) ∧
              (performAt crowd.conduct depth change scene).outcome = .ok () ∧
              (performAt crowd.conduct depth change scene).deeds = [deed] ∧
              deed.marks.head? = some (.made change changed event)) ∧
        ∀ library recorder subscriptions memory caller,
          (opening library subscriptions memory).registry.RecordedBy recorder →
          (∀ mark ∈ Deed.marksAll (crowd.run caller (opening library subscriptions memory)).2,
            mark.resubscribes recorder = false) →
          let marks := Deed.marksAll (crowd.run caller (opening library subscriptions memory)).2
          let after := (crowd.run caller (opening library subscriptions memory)).1.registry
          Deed.log recorder marks = Deed.events marks ∧
            List.Forall₂ Change.ToldBy (marks.filterMap Deed.Mark.mutation?)
              (Deed.log recorder marks) ∧
            (Deed.log recorder marks).foldl Event.replay ([], none) =
              (after.types, after.allowlist) := by
  constructor
  · intro audience hub
    exact ⟨fun depth change => mirrors_performAt audience depth change hub,
      fun operations => run_inTurn audience operations hub⟩
  · intro Memory crowd
    refine ⟨becomes_run crowd, performAt_cases crowd.conduct, ?_⟩
    intro library recorder subscriptions memory caller first kept marks after
    have becomes := becomes_run crowd caller (opening library subscriptions memory)
    have heard : Deed.log recorder marks = Deed.events marks := becomes.log_eq first kept
    refine ⟨heard, ?_, ?_⟩
    · rw [heard]
      exact becomes.leads.toldBy
    · rw [heard]
      exact becomes.leads.replay (sound_opening library subscriptions memory)

/-- The first time it hears of a plugin, one listener takes it back; from then on it allows the
plugin and nothing else. -/
def meddling : Crowd Nat where
  conduct
    | "echo", .registered id =>
        .look fun _ times =>
          .keep (times + 1) <|
            if times = 0 then .ask (.unregister (.str id)) fun _ => .fail
            else .ask (.setAllowlist (.list [.str id])) fun _ => .done
    | _, _ => .done
  depth := 3

def meddledListeners : List Subscription :=
  [⟨"register", "log"⟩, ⟨"unregister", "log"⟩, ⟨"allowlistChanged", "log"⟩, ⟨"register", "echo"⟩]

def boxPlugin : Plugin := ⟨.str "Box", .null, none, none⟩

def boxTwice : Conduct Nat :=
  Operation.inTurn [.register boxPlugin .absent, .register boxPlugin .absent]

theorem deliveries_meddling :
    (opening .none meddledListeners 0).registry.RecordedBy "log" ∧
      (∀ mark ∈ Deed.marksAll (meddling.run boxTwice (opening .none meddledListeners 0)).2,
        mark.resubscribes "log" = false) ∧
      (Deed.log "log" (Deed.marksAll
        (meddling.run boxTwice (opening .none meddledListeners 0)).2)).foldl Event.replay
          ([], none) = (["Box"], some ["Box"]) := by
  have first : (opening .none meddledListeners 0).registry.RecordedBy "log" := by
    intro event
    cases event with
    | registered id => exact ⟨["echo"], rfl, by decide⟩
    | unregistered id => exact ⟨[], rfl, by decide⟩
    | allowlistChanged ids => exact ⟨[], rfl, by decide⟩
  have spares : (Deed.marksAll (meddling.run boxTwice (opening .none meddledListeners 0)).2).all
      (fun mark => !mark.resubscribes "log") = true := by
    decide +kernel
  have kept : ∀ mark ∈ Deed.marksAll (meddling.run boxTwice (opening .none meddledListeners 0)).2,
      mark.resubscribes "log" = false := by
    intro mark member
    simpa using List.all_eq_true.mp spares mark member
  refine ⟨first, kept, ?_⟩
  rw [((deliveries.2 meddling).2.2 .none "log" meddledListeners 0 boxTwice first kept).2.2]
  decide +kernel

/-- A recorder that is subscribed once more hears of one change twice. -/
theorem resubscribed_log :
    let journalists : Audience := ⟨fun _ event => .note event.payload .done, 0⟩
    let operations : List Operation := [.subscribe (.str "register") "log",
      .subscribe (.str "unregister") "log", .subscribe (.str "allowlistChanged") "log",
      .subscribe (.str "register") "log", .register boxPlugin .absent]
    Deed.log "log" (Deed.marksAll
        (journalists.crowd.run (Operation.inTurn operations) (opening .none [] [])).2) =
        [.registered "Box", .registered "Box"] ∧
      ((Hub.of .empty).operateAll journalists operations).journal =
        [.object [("id", .str "Box")], .object [("id", .str "Box")]] ∧
      ((Hub.of .empty).operateAll journalists operations).registry.types = ["Box"] := by
  refine ⟨?_, ?_, ?_⟩ <;> decide +kernel

end

end Crowd

end PageComposer
