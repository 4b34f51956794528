import PageComposer.Registry

/-!
# Delivery of events

Every change of a registry is told to the listeners that are subscribed when it is
made, one after another in the order of subscription.  A listener reacts by a
program of its own: it may write to the journal, change the registry again, which
delivers further events before the listener goes on, and it may fail, which ends
this reaction and nothing else.

Callbacks may nest to a fixed depth; a listener below it finds its changes refused.
-/

namespace PageComposer

/-- A change of a registry that somebody asks for. -/
inductive Change where
  | register (plugin : Plugin) (metadata : MetadataArgument)
  | unregister (id : Value)
  | setAllowlist (ids : Value)
  | subscribe (subscription : Subscription)
  | unsubscribe (subscription : Subscription)

/-- The program of a change, which gives the event that tells of it. -/
def Registry.Update.ofChange : Change → Registry.Update (Option Event)
  | .register plugin metadata => some <$> register plugin metadata
  | .unregister id => some <$> unregister id
  | .setAllowlist ids => some <$> setAllowlist ids
  | .subscribe subscription => do
      modify fun registry => registry.subscribe subscription
      return none
  | .unsubscribe subscription => do
      modify fun registry => registry.unsubscribe subscription
      return none

/-- The registry after a change that is made, and the event that tells of it. -/
def Registry.change (registry : Registry) (change : Change) :
    Outcome (Registry × Option Event) := (Update.ofChange change).result registry

/-- What a listener does about an event. -/
inductive Reaction where
  | done
  | fail
  | note (entry : Value) (rest : Reaction)
  | ask (change : Change) (rest : Outcome Unit → Reaction)

/-- How listeners react, each known by its name, and how deep their callbacks may
nest. -/
structure Audience where
  react : String → Event → Reaction
  depth : Nat

/-- Listeners that do nothing. -/
def Audience.silent : Audience := ⟨fun _ _ => .done, 0⟩

/-- What a source of ids does until it gives them or fails.  It may look at the registry that
they are meant for and ask for changes of it; so may others while it keeps the registry
waiting. -/
inductive Listing where
  | give (ids : Value)
  | fail (fault : Fault)
  | look (rest : Registry → Listing)
  | ask (change : Change) (rest : Outcome Unit → Listing)

namespace Listing

/-- A source that leaves the registry alone. -/
def ofOutcome : Outcome Value → Listing
  | .ok ids => give ids
  | .error fault => fail fault

variable {World : Type} (registry : World → Registry)
  (ask : Change → World → Outcome Unit × World)

/-- Have a source list its ids in a world with a registry; `ask` performs the changes that it
asks for. -/
def run : Listing → World → Outcome Value × World
  | give ids, world => (.ok ids, world)
  | fail fault, world => (.error fault, world)
  | look rest, world => run (rest (registry world)) world
  | .ask change rest, world =>
      let (outcome, changed) := ask change world
      run (rest outcome) changed

/-- Have a source list its ids and make them the allowlist. -/
def load (listing : Listing) (world : World) : Outcome Value × World :=
  match listing.run registry ask world with
  | (.error fault, after) => (.error fault, after)
  | (.ok ids, after) =>
      let (outcome, changed) := ask (.setAllowlist ids) after
      (outcome.map fun _ => ids, changed)

end Listing

/-- A registry together with what has been written down about it. -/
structure Hub where
  registry : Registry
  journal : List Value

namespace Hub

/-- A hub for a registry about which nothing is known yet. -/
def of (registry : Registry) : Hub := ⟨registry, []⟩

def write (hub : Hub) (entry : Value) : Hub := { hub with journal := hub.journal ++ [entry] }

/-- Run a reaction; `ask` performs the changes that it asks for. -/
def run (ask : Change → Hub → Outcome Unit × Hub) : Reaction → Hub → Hub
  | .done, hub => hub
  | .fail, hub => hub
  | .note entry rest, hub => run ask rest (hub.write entry)
  | .ask change rest, hub =>
      let (outcome, changed) := ask change hub
      run ask (rest outcome) changed

/-- Tell an event to those who listen when it happens. -/
def announce (react : String → Event → Reaction) (ask : Change → Hub → Outcome Unit × Hub)
    (event : Event) (hub : Hub) : Hub :=
  (hub.registry.listeners event).foldl
    (fun hub listener => run ask (react listener event) hub) hub

/-- Make a change and tell of it.  The registry is then as the change left it, even where the
change failed. -/
def step (react : String → Event → Reaction) (ask : Change → Hub → Outcome Unit × Hub)
    (change : Change) (hub : Hub) : Outcome Unit × Hub :=
  match (Registry.Update.ofChange change).answer hub.registry with
  | (.error fault, left) => (.error fault, { hub with registry := left })
  | (.ok none, changed) => (.ok (), { hub with registry := changed })
  | (.ok (some event), changed) =>
      (.ok (), announce react ask event { hub with registry := changed })

/-- Make a change from within callbacks of which `depth` more may be nested. -/
def performAt (react : String → Event → Reaction) :
    Nat → Change → Hub → Outcome Unit × Hub
  | 0 => step react fun _ hub => (.error (.misuse .tooDeep), hub)
  | depth + 1 => step react (performAt react depth)

/-- Make a change before an audience. -/
def perform (audience : Audience) (change : Change) (hub : Hub) : Outcome Unit × Hub :=
  performAt audience.react audience.depth change hub

/-- Replace the allowlist by the ids that a source lists, and give these back.  Without
a source nothing changes, and the answer is empty. -/
def loadAllowlist (audience : Audience) (source : Option Listing) (hub : Hub) :
    Outcome Value × Hub :=
  match source with
  | none => (.ok (.list []), hub)
  | some listing => listing.load Hub.registry (perform audience) hub

/-- Subscribe a listener to what is told under a value, or take a subscription back. -/
def listen (audience : Audience) (change : Subscription → Change) (event : Value)
    (listener : String) (hub : Hub) : Outcome Unit × Hub :=
  match Subscription.under event listener with
  | .error fault => (.error fault, hub)
  | .ok none => (.ok (), hub)
  | .ok (some subscription) => hub.perform audience (change subscription)

end Hub

end PageComposer
