import Mathlib.Data.List.Forall2
import PageComposer.Proofs.Registry.Standing

/-!
# What happens to a registry

A listener that is told of a change may change the registry again, so deliveries nest.  A `Deed`
keeps this form: with a change that is told it has who was told, one after another, and what each
of them did.  Read off in the order of time, deeds are `marks`, which lead from one registry to
another.

A recorder that is told first of every change hears of the changes in the order in which they are
made, before anybody else can make the next one; so its log accounts for what is registered and
allowed in the end.
-/

namespace PageComposer

/-- A change that is made.  Those who are told of it do things of their own, one after
another. -/
inductive Deed where
  | quiet (change : Change) (after : Registry)
  | told (change : Change) (after : Registry) (event : Event)
      (heard : List (String × List Deed))

/-- A single happening: a change with the registry after it, or a call of a listener. -/
inductive Deed.Mark where
  | made (change : Change) (after : Registry) (event : Option Event)
  | called (listener : String) (event : Event)

namespace Deed

mutual

/-- What happens, in the order of time. -/
def marks : Deed → List Mark
  | .quiet change after => [.made change after none]
  | .told change after event heard => .made change after (some event) :: marksHeard event heard

def marksHeard (event : Event) : List (String × List Deed) → List Mark
  | [] => []
  | (listener, deeds) :: rest => .called listener event :: marksAll deeds ++ marksHeard event rest

def marksAll : List Deed → List Mark
  | [] => []
  | deed :: rest => deed.marks ++ marksAll rest

end

@[simp] theorem marksAll_singleton (deed : Deed) : marksAll [deed] = deed.marks := by
  simp [marksAll]

theorem marksAll_append (deeds others : List Deed) :
    marksAll (deeds ++ others) = marksAll deeds ++ marksAll others := by
  induction deeds with
  | nil => rfl
  | cons deed rest induction => simp [marksAll, induction]

theorem mem_marksAll {deeds : List Deed} {deed : Deed} {mark : Mark} (member : deed ∈ deeds)
    (within : mark ∈ deed.marks) : mark ∈ marksAll deeds := by
  induction deeds with
  | nil => cases member
  | cons first rest induction =>
      rw [marksAll, List.mem_append]
      rcases List.mem_cons.mp member with rfl | later
      · exact .inl within
      · exact .inr (induction later)

theorem mem_marksHeard {event : Event} {heard : List (String × List Deed)}
    {call : String × List Deed} {deed : Deed} {mark : Mark} (called : call ∈ heard)
    (member : deed ∈ call.2) (within : mark ∈ deed.marks) : mark ∈ marksHeard event heard := by
  induction heard with
  | nil => cases called
  | cons first rest induction =>
      obtain ⟨listener, deeds⟩ := first
      rw [marksHeard, List.mem_append, List.mem_cons]
      rcases List.mem_cons.mp called with rfl | later
      · exact .inl (.inr (mem_marksAll member within))
      · exact .inr (induction later)

end Deed

/-! ### From one registry to another -/

/-- Each change is made of the registry that the one before has left, and calls alone change
nothing. -/
inductive Leads : Registry → List Deed.Mark → Registry → Prop where
  | nothing {registry : Registry} : Leads registry [] registry
  | made {registry after : Registry} {change : Change} {changed : Registry}
      {event : Option Event} {marks : List Deed.Mark}
      (accepted : registry.change change = .ok (changed, event))
      (onward : Leads changed marks after) :
      Leads registry (.made change changed event :: marks) after
  | called {registry after : Registry} {listener : String} {event : Event}
      {marks : List Deed.Mark} (onward : Leads registry marks after) :
      Leads registry (.called listener event :: marks) after

theorem Leads.append {registry between after : Registry} {marks others : List Deed.Mark}
    (first : Leads registry marks between) (second : Leads between others after) :
    Leads registry (marks ++ others) after := by
  induction first with
  | nothing => exact second
  | made accepted _ induction => exact .made accepted (induction second)
  | called _ induction => exact .called (induction second)

/-- Everybody who listens when a change is told of is called, once for each subscription and in
the order of these, whatever those do who are called earlier. -/
inductive Deed.Complete : Deed → Prop where
  | quiet {change : Change} {after : Registry} : Complete (.quiet change after)
  | told {change : Change} {after : Registry} {event : Event}
      {heard : List (String × List Deed)}
      (everybody : heard.map Prod.fst = after.listeners event)
      (within : ∀ call ∈ heard, ∀ deed ∈ call.2, Complete deed) :
      Complete (.told change after event heard)

namespace Registry

/-- Complete deeds lead from one registry to another. -/
structure Becomes (registry : Registry) (deeds : List Deed) (after : Registry) : Prop where
  leads : Leads registry (Deed.marksAll deeds) after
  complete : ∀ deed ∈ deeds, deed.Complete

/-- What is done by those who are told of an event leads from one registry to another. -/
structure Hears (registry : Registry) (event : Event) (heard : List (String × List Deed))
    (after : Registry) : Prop where
  leads : Leads registry (Deed.marksHeard event heard) after
  complete : ∀ call ∈ heard, ∀ deed ∈ call.2, deed.Complete

variable {registry between changed after : Registry} {change : Change} {event : Event}
  {deeds others : List Deed} {heard : List (String × List Deed)}

theorem Becomes.nothing : registry.Becomes [] registry := ⟨.nothing, by simp⟩

theorem Becomes.append (first : registry.Becomes deeds between)
    (second : between.Becomes others after) : registry.Becomes (deeds ++ others) after := by
  constructor
  · rw [Deed.marksAll_append]
    exact first.leads.append second.leads
  · rw [List.forall_mem_append]
    exact ⟨first.complete, second.complete⟩

theorem Becomes.quiet (accepted : registry.change change = .ok (changed, none)) :
    registry.Becomes [.quiet change changed] changed := by
  constructor
  · rw [Deed.marksAll_singleton]
    exact .made accepted .nothing
  · rw [List.forall_mem_singleton]
    exact .quiet

theorem Becomes.told (accepted : registry.change change = .ok (changed, some event))
    (everybody : heard.map Prod.fst = changed.listeners event)
    (hears : changed.Hears event heard after) :
    registry.Becomes [.told change changed event heard] after := by
  constructor
  · rw [Deed.marksAll_singleton]
    exact .made accepted hears.leads
  · rw [List.forall_mem_singleton]
    exact .told everybody hears.complete

theorem Hears.nothing : registry.Hears event [] registry := ⟨.nothing, by simp⟩

theorem Hears.cons {listener : String} (own : registry.Becomes deeds between)
    (later : between.Hears event heard after) :
    registry.Hears event ((listener, deeds) :: heard) after := by
  constructor
  · rw [Deed.marksHeard]
    exact .called (own.leads.append later.leads)
  · rw [List.forall_mem_cons]
    exact ⟨own.complete, later.complete⟩

end Registry

/-! ### A recorder -/

namespace Event

def names : List String := ["register", "unregister", "allowlistChanged"]

theorem name_mem_names (event : Event) : event.name ∈ names := by
  cases event <;> simp [name, names]

end Event

/-- A subscription of a listener to a kind of change. -/
def Subscription.isOf (recorder : String) (subscription : Subscription) : Bool :=
  subscription.listener = recorder && Event.names.contains subscription.event

namespace Deed.Mark

def event? : Deed.Mark → Option Event
  | made _ _ event => event
  | _ => none

def heard? (listener : String) : Deed.Mark → Option Event
  | called other event => if other = listener then some event else none
  | _ => none

/-- A listener is subscribed once more, or a subscription of it is taken back. -/
def resubscribes (recorder : String) : Deed.Mark → Bool
  | made (.subscribe subscription) _ _ => subscription.isOf recorder
  | made (.unsubscribe subscription) _ _ => subscription.isOf recorder
  | _ => false

end Deed.Mark

namespace Registry

variable {registry changed : Registry} {recorder : String}

/-- A listener is told first of each change, and told once. -/
def RecordedBy (recorder : String) (registry : Registry) : Prop :=
  ∀ event : Event, ∃ others,
    registry.listeners event = recorder :: others ∧ recorder ∉ others

theorem listeners_subscribe (registry : Registry) (subscription : Subscription) (event : Event) :
    (registry.subscribe subscription).listeners event =
      registry.listeners event ++
        if subscription.event = event.name then [subscription.listener] else [] := by
  by_cases here : subscription.event = event.name <;>
    simp [listeners, subscribe, List.filter_append, here]

theorem listeners_unsubscribe (registry : Registry) (subscription : Subscription)
    (event : Event) :
    (registry.unsubscribe subscription).listeners event =
      if subscription.event = event.name then
        (registry.listeners event).erase subscription.listener
      else registry.listeners event := by
  obtain ⟨library, registrations, validators, allowlist, subscriptions⟩ := registry
  obtain ⟨name, listener⟩ := subscription
  simp only [listeners, unsubscribe]
  induction subscriptions with
  | nil => simp
  | cons first rest induction =>
      obtain ⟨firstName, firstListener⟩ := first
      by_cases same : firstName = name ∧ firstListener = listener
      · obtain ⟨rfl, rfl⟩ := same
        by_cases here : firstName = event.name <;> simp [here]
      · have apart : (⟨firstName, firstListener⟩ : Subscription) ≠ ⟨name, listener⟩ := by
          simpa using same
        rw [List.erase_cons_tail (by simpa using apart)]
        by_cases named : firstName = event.name
        · by_cases here : name = event.name
          · have other : firstListener ≠ listener := fun alike =>
              same ⟨named.trans here.symm, alike⟩
            simp_all [List.erase_cons_tail]
          · simp_all
        · by_cases here : name = event.name <;> simp_all

theorem subscriptions_of_told {change : Change} {event : Event}
    (accepted : registry.change change = .ok (changed, some event)) :
    changed.subscriptions = registry.subscriptions := by
  rcases change_ok accepted with ⟨_, _, _, -, -, made⟩ | ⟨_, _, -, -, made⟩ | ⟨_, _, -, -, made⟩ |
    ⟨-, silent, -⟩
  · obtain ⟨_, _, _, -, -, -, -, -, -, rfl⟩ := register_ok made
    rfl
  · obtain ⟨_, _, -, -, -, -, rfl⟩ := unregister_ok made
    rfl
  · obtain ⟨_, -, -, rfl⟩ := setAllowlist_ok made
    rfl
  · cases silent

theorem ne_of_not_isOf {subscription : Subscription} {event : Event}
    (other : subscription.isOf recorder = false) (here : subscription.event = event.name) :
    subscription.listener ≠ recorder := by
  rintro same
  have among : Event.names.contains subscription.event = true := by
    rw [here, List.contains_iff_mem]
    exact event.name_mem_names
  simp only [Subscription.isOf, same, decide_true, among, Bool.and_self] at other
  cases other

theorem RecordedBy.change {change : Change} {event : Option Event}
    (recorded : registry.RecordedBy recorder)
    (accepted : registry.change change = .ok (changed, event))
    (spares : (Deed.Mark.made change changed event).resubscribes recorder = false) :
    changed.RecordedBy recorder := by
  intro told
  obtain ⟨others, first, alone⟩ := recorded told
  cases change with
  | subscribe subscription =>
      obtain ⟨rfl, -⟩ : registry.subscribe subscription = changed ∧ none = event := by
        simpa [change_subscribe] using accepted
      rw [listeners_subscribe, first, List.cons_append]
      refine ⟨_, rfl, ?_⟩
      split
      · rename_i here
        simpa [alone] using (ne_of_not_isOf spares here).symm
      · simpa using alone
  | unsubscribe subscription =>
      obtain ⟨rfl, -⟩ : registry.unsubscribe subscription = changed ∧ none = event := by
        simpa [change_unsubscribe] using accepted
      rw [listeners_unsubscribe, first]
      split
      · rename_i here
        have apart : ¬ (recorder == subscription.listener) = true := by
          simpa using (ne_of_not_isOf spares here).symm
        rw [List.erase_cons_tail apart]
        exact ⟨_, rfl, fun member => alone (List.mem_of_mem_erase member)⟩
      · exact ⟨others, rfl, alone⟩
  | _ =>
      obtain ⟨event, rfl, -⟩ := told_ok accepted
      rw [listeners, subscriptions_of_told accepted]
      exact ⟨others, first, alone⟩

end Registry

namespace Leads

variable {registry after : Registry} {marks : List Deed.Mark} {recorder : String}

theorem recordedBy (leads : Leads registry marks after) (recorded : registry.RecordedBy recorder)
    (spares : ∀ mark ∈ marks, mark.resubscribes recorder = false) :
    ∀ change changed event, .made change changed event ∈ marks → changed.RecordedBy recorder := by
  induction leads with
  | nothing => simp
  | called _ induction =>
      intro change changed event member
      rw [List.forall_mem_cons] at spares
      exact induction recorded spares.2 change changed event (by simpa using member)
  | made accepted _ induction =>
      rw [List.forall_mem_cons] at spares
      have next := recorded.change accepted spares.1
      intro change changed event member
      rcases List.mem_cons.mp member with same | later
      · injection same with _ here _
        rw [here]
        exact next
      · exact induction next spares.2 change changed event later

end Leads

/-! ### What the recorder hears -/

namespace Deed

variable {recorder : String}

/-- What a listener is told, in the order of time. -/
def log (listener : String) (marks : List Mark) : List Event :=
  marks.filterMap (Mark.heard? listener)

/-- The events that changes are told with, in the order of the changes. -/
def events (marks : List Mark) : List Event := marks.filterMap Mark.event?

@[simp] theorem log_made (listener : String) (change : Change) (after : Registry)
    (event : Option Event) (marks : List Mark) :
    log listener (.made change after event :: marks) = log listener marks := rfl

@[simp] theorem log_called (listener other : String) (event : Event) (marks : List Mark) :
    log listener (.called other event :: marks) =
      if other = listener then event :: log listener marks else log listener marks := by
  by_cases same : other = listener <;> simp [log, Mark.heard?, same]

@[simp] theorem events_made (change : Change) (after : Registry) (event : Option Event)
    (marks : List Mark) :
    events (.made change after event :: marks) = event.toList ++ events marks := by
  cases event <;> rfl

@[simp] theorem events_called (listener : String) (event : Event) (marks : List Mark) :
    events (.called listener event :: marks) = events marks := rfl

theorem log_append (listener : String) (marks others : List Mark) :
    log listener (marks ++ others) = log listener marks ++ log listener others :=
  List.filterMap_append

theorem events_append (marks others : List Mark) :
    events (marks ++ others) = events marks ++ events others :=
  List.filterMap_append

theorem log_marksAll {deeds : List Deed}
    (each : ∀ deed ∈ deeds, log recorder deed.marks = events deed.marks) :
    log recorder (marksAll deeds) = events (marksAll deeds) := by
  induction deeds with
  | nil => rfl
  | cons deed rest induction =>
      rw [List.forall_mem_cons] at each
      rw [marksAll, log_append, events_append, each.1, induction each.2]

/-- Those who are called later are not the recorder, so it hears what is made in between. -/
theorem log_marksHeard {event : Event} {heard : List (String × List Deed)}
    (others : recorder ∉ heard.map Prod.fst)
    (each : ∀ call ∈ heard, ∀ deed ∈ call.2, log recorder deed.marks = events deed.marks) :
    log recorder (marksHeard event heard) = events (marksHeard event heard) := by
  induction heard with
  | nil => rfl
  | cons call rest induction =>
      obtain ⟨listener, deeds⟩ := call
      rw [List.forall_mem_cons] at each
      rw [List.map_cons, List.mem_cons, not_or] at others
      have inside := log_marksAll each.1
      have later := induction others.2 each.2
      rw [marksHeard, List.cons_append, log_called, if_neg (Ne.symm others.1), log_append,
        events_called, events_append, inside, later]

/-- The recorder is called before anybody can make the next change. -/
theorem Complete.log_eq {deed : Deed} (complete : deed.Complete)
    (recorded : ∀ change changed event, .made change changed event ∈ deed.marks →
      changed.RecordedBy recorder) :
    log recorder deed.marks = events deed.marks := by
  induction complete with
  | quiet => rfl
  | @told change after event heard everybody _ induction =>
      obtain ⟨others, first, alone⟩ := recorded change after (some event) (by simp [marks]) event
      have each : ∀ call ∈ heard, ∀ deed ∈ call.2,
          log recorder deed.marks = events deed.marks := by
        intro call called deed member
        apply induction call called deed member
        intro change changed event within
        apply recorded change changed event
        exact List.mem_cons_of_mem _ (mem_marksHeard called member within)
      -- the recorder is called first, and whatever it does itself comes after it has heard
      rw [first] at everybody
      cases heard with
      | nil => cases everybody
      | cons call rest =>
          obtain ⟨listener, deeds⟩ := call
          obtain ⟨rfl, named⟩ := List.cons.inj everybody
          rw [List.forall_mem_cons] at each
          have own := log_marksAll each.1
          have later := @log_marksHeard _ event rest (by simpa [named] using alone) each.2
          rw [marks, marksHeard, List.cons_append, log_made, log_called, if_pos rfl, log_append,
            events_made, events_called, events_append, own, later]
          rfl

end Deed

/-! ### What a log accounts for -/

/-- What is known of the registered ids and of the allowlist after one more event. -/
def Event.replay (known : List String × Option (List String)) :
    Event → List String × Option (List String)
  | .registered id => (known.1 ++ [id], known.2)
  | .unregistered id => (known.1.erase id, known.2)
  | .allowlistChanged ids => (known.1, ids)

namespace Change

def mutates : Change → Bool
  | subscribe _ | unsubscribe _ => false
  | _ => true

/-- An event tells of a change. -/
def ToldBy : Change → Event → Prop
  | register plugin _, .registered id => plugin.id = .str id
  | unregister id, .unregistered name => id = .str name
  | setAllowlist ids, .allowlistChanged allowed => Registry.allowedIds? ids = .ok allowed
  | _, _ => False

end Change

def Deed.Mark.mutation? : Deed.Mark → Option Change
  | made change _ _ => if change.mutates then some change else none
  | _ => none

namespace Registry

variable {registry changed : Registry} {change : Change} {event : Option Event}

theorem replay_change (sound : registry.Sound)
    (accepted : registry.change change = .ok (changed, event)) :
    event.toList.foldl Event.replay (registry.types, registry.allowlist) =
      (changed.types, changed.allowlist) := by
  rcases change_ok accepted with ⟨_, _, _, -, rfl, made⟩ | ⟨_, _, -, rfl, made⟩ |
    ⟨_, _, -, rfl, made⟩ | ⟨-, rfl, _, rfl⟩
  · obtain ⟨_, _, _, -, -, -, -, -, rfl, rfl⟩ := register_ok made
    simp [Event.replay, types]
  · obtain ⟨name, _, -, -, -, rfl, rfl⟩ := unregister_ok made
    have erased : registry.types.erase name =
        (registry.registrations.filter fun other => other.id ≠ name).map Registration.id := by
      rw [sound.distinct.erase_eq_filter, types, List.filter_map]
      congr 2
      funext other
      simp [bne, Bool.beq_eq_decide_eq]
    simp only [Option.toList_some, List.foldl_cons, List.foldl_nil, Event.replay, erased]
    rfl
  · obtain ⟨_, -, rfl, rfl⟩ := setAllowlist_ok made
    rfl
  · rfl

theorem toldBy_change (accepted : registry.change change = .ok (changed, event)) :
    List.Forall₂ Change.ToldBy (if change.mutates then [change] else []) event.toList := by
  rcases change_ok accepted with ⟨_, _, _, rfl, rfl, made⟩ | ⟨_, _, rfl, rfl, made⟩ |
    ⟨_, _, rfl, rfl, made⟩ | ⟨⟨_, rfl⟩ | ⟨_, rfl⟩, rfl, -⟩
  · obtain ⟨_, _, _, named, -, -, -, -, rfl, -⟩ := register_ok made
    exact .cons named .nil
  · obtain ⟨_, _, named, -, -, rfl, -⟩ := unregister_ok made
    exact .cons named .nil
  · obtain ⟨_, read, rfl, -⟩ := setAllowlist_ok made
    exact .cons read .nil
  · exact .nil
  · exact .nil

end Registry

namespace Leads

variable {registry after : Registry} {marks : List Deed.Mark}

theorem replay (leads : Leads registry marks after) (sound : registry.Sound) :
    (Deed.events marks).foldl Event.replay (registry.types, registry.allowlist) =
      (after.types, after.allowlist) := by
  induction leads with
  | nothing => rfl
  | called _ induction => exact induction sound
  | made accepted _ induction =>
      rw [Deed.events_made, List.foldl_append, Registry.replay_change sound accepted]
      exact induction (sound.step accepted)

/-- Each change of what is registered or allowed is told with one event, in order. -/
theorem toldBy (leads : Leads registry marks after) :
    List.Forall₂ Change.ToldBy (marks.filterMap Deed.Mark.mutation?) (Deed.events marks) := by
  induction leads with
  | nothing => exact .nil
  | called _ induction => exact induction
  | @made _ _ change changed event marks accepted _ induction =>
      have split : (Deed.Mark.made change changed event :: marks).filterMap Deed.Mark.mutation? =
          (if change.mutates then [change] else []) ++ marks.filterMap Deed.Mark.mutation? := by
        cases mutates : change.mutates <;> simp [Deed.Mark.mutation?, mutates]
      rw [split, Deed.events_made]
      exact List.rel_append (Registry.toldBy_change accepted) induction

end Leads

/-- A recorder that is told first, and stays so, hears of all changes. -/
theorem Registry.Becomes.log_eq {registry after : Registry} {deeds : List Deed}
    {recorder : String} (becomes : registry.Becomes deeds after)
    (recorded : registry.RecordedBy recorder)
    (spares : ∀ mark ∈ Deed.marksAll deeds, mark.resubscribes recorder = false) :
    Deed.log recorder (Deed.marksAll deeds) = Deed.events (Deed.marksAll deeds) := by
  have throughout := becomes.leads.recordedBy recorded spares
  apply Deed.log_marksAll
  intro deed member
  apply (becomes.complete deed member).log_eq
  intro change changed event within
  exact throughout change changed event (Deed.mem_marksAll member within)

end PageComposer
