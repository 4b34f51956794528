import PageComposer.Proofs.Service.Ledger

/-!
# Caches and ledgers

A family on whose root each service is registered once, before there are scopes, keeps what
its ledger says: `Family.Keeping` ties each cache of each container to what was made and
disposed of before.  `Family.Runs.keeping` says that no resolution breaks the tie.

That factories build fresh values is told by a clock: what a factory builds has a stamp
that no instance had when the factory began to build it.
-/

namespace PageComposer.Service

variable {World Instance : Type}

/-- How new instances are told from old ones. -/
structure Clock (World Instance : Type) where
  now : World → Nat
  stamp : Instance → Nat

/-- A recipe that resolves what it needs and then builds a value with a new stamp; `since`
is the time when the last need was met. -/
def Recipe.Builds (clock : Clock World Instance) (since : Nat) (world : World) :
    Recipe World Instance → Prop
  | .give made => since ≤ clock.stamp made ∧ clock.stamp made < clock.now world
  | .fail _ => True
  | .read rest => Builds clock since world (rest world)
  | .write changed rest =>
      clock.now world ≤ clock.now changed ∧ Builds clock since changed rest
  | .known _ rest => ∀ registered, Builds clock since world (rest registered)
  | .need _ rest => ∀ found later, clock.now world ≤ clock.now later →
      Builds clock (clock.now later) later (rest found)

/-- A factory that builds a fresh value each time, with a disposer that does not turn the
clock back. -/
structure Factory.Fresh (clock : Clock World Instance) (factory : Factory World Instance) :
    Prop where
  builds : ∀ world, factory.create.Builds clock (clock.now world) world
  disposes : ∀ made world, clock.now world ≤ clock.now (factory.dispose made world).2

namespace Family

/-! ### Caches and ledgers -/

/-- A family keeps what its ledger says: each container keeps what lives on it, a service
that is being created does not live yet, and instances have stamps from the past. -/
structure Keeping (clock : Clock World Instance) (events : Ledger Instance)
    (family : Family World Instance) : Prop where
  justified : Ledger.Justified family.lifetimeOf events
  rooted : 0 < family.size
  registrations : ∀ handle < family.size,
    (family.container handle).registrations = (family.container Handle.root).registrations
  fresh : ∀ key registration,
    Table.get? (family.container Handle.root).registrations key = some registration →
      registration.factory.Fresh clock
  held : ∀ handle < family.size, ∀ key lifetime, family.lifetimeOf key = some lifetime →
    lifetime.home handle = handle → lifetime.Keeps handle →
      family.kept? handle lifetime key = Ledger.holding handle key events
  bare : ∀ handle < family.size, ∀ key, family.lifetimeOf key = none →
    ∀ lifetime, family.kept? handle lifetime key = none
  counted : ∀ made ∈ events.instances, clock.stamp made < clock.now family.world
  placed : ∀ handle key made, .made handle key made ∈ events → handle < family.size
  creating : ∀ handle < family.size, ∀ key, family.IsCreating handle key →
    ∀ lifetime, family.lifetimeOf key = some lifetime → lifetime.Keeps handle →
      Ledger.holding handle key events = none

section

variable {clock : Clock World Instance} {events : Ledger Instance}
  {family after : Family World Instance} {handle : Handle} {id : Identifier} {key : Key}
  {registration : Registration World Instance} {lifetime : Lifetime}

theorem Keeping.find? (keeping : Keeping clock events family) (there : handle < family.size)
    (id : Identifier) :
    (family.container handle).find? id = (family.container Handle.root).find? id := by
  rw [Container.find?, Container.find?, keeping.registrations handle there]

/-- A container that serves a service itself is the one that its instances belong to. -/
theorem Keeping.home (keeping : Keeping clock events family) (there : handle < family.size)
    (serves : family.Serves handle id key registration) :
    registration.lifetime.home handle = handle := by
  cases single : registration.lifetime with
  | transient | perScope => rfl
  | singleton =>
      have found := serves.found
      rw [keeping.find? there] at found
      by_cases atRoot : handle = Handle.root
      · exact atRoot.symm
      · exact absurd ⟨single, by simp [inherits, atRoot, found]⟩ serves.own

theorem Keeping.lifetimeOf_serves (keeping : Keeping clock events family)
    (there : handle < family.size) (named : id.key = some key)
    (found : (family.container handle).find? id = some registration) :
    Table.get? (family.container Handle.root).registrations key = some registration ∧
      family.lifetimeOf key = some registration.lifetime := by
  rw [keeping.find? there, Container.find?, named, Option.bind_some] at found
  exact ⟨found, by rw [lifetimeOf, found, Option.map_some]⟩

/-- A step that leaves registrations and caches as they are. -/
theorem Keeping.transfer (keeping : Keeping clock events family) (size : after.size = family.size)
    (registrations : ∀ handle,
      (after.container handle).registrations = (family.container handle).registrations)
    (kept : ∀ handle lifetime key,
      after.kept? handle lifetime key = family.kept? handle lifetime key)
    (later : clock.now family.world ≤ clock.now after.world)
    (creating : ∀ handle < family.size, ∀ key, after.IsCreating handle key →
      ∀ lifetime, family.lifetimeOf key = some lifetime → lifetime.Keeps handle →
        Ledger.holding handle key events = none) : Keeping clock events after := by
  have lifetimes := lifetimeOf_congr (registrations Handle.root)
  exact {
    justified := lifetimes ▸ keeping.justified
    rooted := size ▸ keeping.rooted
    registrations := by
      intro handle there
      rw [registrations, registrations]
      exact keeping.registrations handle (size ▸ there)
    fresh := by
      intro key registration found
      rw [registrations] at found
      exact keeping.fresh key registration found
    held := by
      intro handle there key lifetime named home keeps
      rw [kept]
      exact keeping.held handle (size ▸ there) key lifetime (lifetimes ▸ named) home keeps
    bare := by
      intro handle there key unnamed lifetime
      rw [kept]
      exact keeping.bare handle (size ▸ there) key (lifetimes ▸ unnamed) lifetime
    counted := fun made member => Nat.lt_of_lt_of_le (keeping.counted made member) later
    placed := fun handle key made member => size ▸ keeping.placed handle key made member
    creating := by
      intro handle there key inside lifetime named keeps
      exact creating handle (size ▸ there) key inside lifetime (lifetimes ▸ named) keeps }

theorem Keeping.enter (keeping : Keeping clock events family) (there : handle < family.size)
    (serves : family.Serves handle id key registration)
    (missing : family.kept? handle registration.lifetime key = none) :
    Keeping clock events (family.enter handle id) := by
  refine keeping.transfer rfl (fun other => registrations_enter family handle other id)
    (fun other lifetime key => kept?_enter id other) Nat.le.refl ?_
  intro other otherThere name inside lifetime named keeps
  rcases isCreating_enter inside with before | ⟨rfl, sameKey⟩
  · exact keeping.creating other otherThere name before lifetime named keeps
  · obtain rfl : key = name := by simpa [serves.named] using sameKey
    obtain ⟨-, ownNamed⟩ := keeping.lifetimeOf_serves there serves.named serves.found
    obtain rfl : registration.lifetime = lifetime := by simpa [ownNamed] using named
    rw [← keeping.held other there key _ named (keeping.home there serves) keeps]
    exact missing

theorem Keeping.leave (keeping : Keeping clock events family) (handle : Handle) :
    Keeping clock events (family.leave handle) := by
  refine keeping.transfer rfl (fun other => registrations_leave family handle other)
    (fun other lifetime key => kept?_leave other) Nat.le.refl ?_
  intro other there name inside
  exact keeping.creating other there name (isCreating_leave inside)

theorem Keeping.write (keeping : Keeping clock events family) {world : World}
    (later : clock.now family.world ≤ clock.now world) :
    Keeping clock events { family with world := world } :=
  keeping.transfer rfl (fun _ => rfl) (fun _ _ _ => rfl) later keeping.creating

/-- An instance that is handed out changes nothing. -/
theorem Keeping.resolved {found : Instance} (keeping : Keeping clock events family)
    (follows : Ledger.Follows family.lifetimeOf events (.resolved handle key found)) :
    Keeping clock (events ++ [.resolved handle key found]) family := by
  have same (other : Handle) (name : Key) :
      Ledger.holding other name (events ++ [.resolved handle key found]) =
        Ledger.holding other name events := Ledger.holding_concat ..
  exact {
    keeping with
    justified := keeping.justified.concat follows
    held := by simpa only [same] using keeping.held
    counted := by simpa [Ledger.instances_append, Ledger.instances] using keeping.counted
    placed := by simpa using keeping.placed
    creating := by simpa only [same] using keeping.creating }

/-- An instance that was made with a new stamp, where none lives, lives there from then
on. -/
theorem Keeping.keep {made : Instance} (keeping : Keeping clock events family)
    (there : handle < family.size)
    (named : family.lifetimeOf key = some lifetime) (home : lifetime.home handle = handle)
    (free : lifetime.Keeps handle → Ledger.holding handle key events = none)
    (idle : ¬ family.IsCreating handle key)
    (new : ∀ other ∈ events.instances, clock.stamp other < clock.stamp made)
    (counted : clock.stamp made < clock.now family.world) :
    Keeping clock (events ++ [.made handle key made])
      (family.keep handle lifetime key made) := by
  have shape : family.SameShape (family.keep handle lifetime key made) := .keep ..
  have lifetimes := lifetimeOf_congr (shape.registrations Handle.root)
  have absent : made ∉ events.instances := fun member => Nat.lt_irrefl _ (new made member)
  have follows : Ledger.Follows family.lifetimeOf events (.made handle key made) :=
    ⟨lifetime, named, home, free, absent⟩
  have instances : Ledger.instances (events ++ [.made handle key made]) =
      events.instances ++ [made] :=
    Ledger.instances_append ..
  have elsewhere {other : Handle} {name : Key} (apart : ¬ (handle = other ∧ key = name)) :
      Ledger.holding other name (events ++ [.made handle key made]) =
        Ledger.holding other name events := by
    rw [Ledger.holding_concat, Ledger.after, if_neg apart]
  exact {
    justified := lifetimes ▸ keeping.justified.concat follows
    rooted := shape.size ▸ keeping.rooted
    registrations := by
      intro other otherThere
      rw [shape.registrations, shape.registrations]
      exact keeping.registrations other (shape.size ▸ otherThere)
    fresh := by
      intro name registration found
      rw [shape.registrations] at found
      exact keeping.fresh name registration found
    held := by
      intro other otherThere name next nextNamed nextHome nextKeeps
      rw [shape.size] at otherThere
      rw [lifetimes] at nextNamed
      by_cases here : handle = other ∧ key = name
      · obtain ⟨rfl, rfl⟩ := here
        obtain rfl : lifetime = next := by simpa [named] using nextNamed
        rw [kept?_keep made nextKeeps, if_pos ⟨rfl, rfl, rfl⟩, Ledger.holding_concat,
          Ledger.after, if_pos ⟨rfl, rfl⟩]
      · rw [elsewhere here, ← keeping.held other otherThere name next nextNamed nextHome nextKeeps]
        by_cases keeps : lifetime.Keeps handle
        · rw [kept?_keep made keeps, if_neg]
          rintro ⟨rfl, -, rfl⟩
          exact here ⟨rfl, rfl⟩
        · rw [keep_of_not_keeps made keeps]
    bare := by
      intro other otherThere name unnamed next
      rw [shape.size] at otherThere
      rw [lifetimes] at unnamed
      rw [← keeping.bare other otherThere name unnamed next]
      by_cases keeps : lifetime.Keeps handle
      · rw [kept?_keep made keeps, if_neg]
        rintro ⟨-, -, rfl⟩
        simp [named] at unnamed
      · rw [keep_of_not_keeps made keeps]
    counted := by
      intro other member
      rw [world_keep]
      rw [instances, List.mem_append, List.mem_singleton] at member
      rcases member with before | rfl
      · exact keeping.counted other before
      · exact counted
    placed := by
      intro other name value member
      rw [shape.size]
      simp only [List.mem_append, List.mem_singleton, Event.made.injEq] at member
      rcases member with before | ⟨rfl, -, -⟩
      · exact keeping.placed other name value before
      · exact there
    creating := by
      intro other otherThere name inside next nextNamed nextKeeps
      rw [shape.size] at otherThere
      rw [lifetimes] at nextNamed
      have before : family.IsCreating other name := by
        rwa [IsCreating, shape.creating] at inside
      rw [elsewhere]
      · exact keeping.creating other otherThere name before next nextNamed nextKeeps
      · rintro ⟨rfl, rfl⟩
        exact idle before }

/-- A creation that has come to its end: what was built lives where it belongs. -/
theorem Keeping.finish {between : Family World Instance} {made : Instance}
    (keeping : Keeping clock events between) (shape : (family.enter handle id).SameShape between)
    (there : handle < family.size) (sameKey : id.key = some key)
    (free : ¬ family.IsCreating handle key) (named : family.lifetimeOf key = some lifetime)
    (home : lifetime.home handle = handle)
    (new : ∀ other ∈ events.instances, clock.stamp other < clock.stamp made)
    (counted : clock.stamp made < clock.now between.world) :
    Keeping clock (events ++ [.made handle key made])
      ((between.leave handle).keep handle lifetime key made) := by
  have sameShape : family.SameShape (between.leave handle) := .leave shape
  have lifetimes := lifetimeOf_congr (sameShape.registrations Handle.root)
  have betweenLifetimes : between.lifetimeOf = family.lifetimeOf :=
    lifetimeOf_congr ((shape.registrations _).trans (registrations_enter ..))
  have within : between.IsCreating handle key := by
    refine ⟨id, ?_, sameKey⟩
    rw [shape.creating]
    simp [Family.enter]
  -- Whatever the recipe has resolved, the service could not: it is still being created.
  have unheld : lifetime.Keeps handle → Ledger.holding handle key events = none := fun keeps =>
    keeping.creating handle (shape.size ▸ there) key within _ (betweenLifetimes ▸ named) keeps
  have idle : ¬ (between.leave handle).IsCreating handle key := by
    rwa [IsCreating, sameShape.creating]
  exact (keeping.leave handle).keep (sameShape.size ▸ there) (lifetimes ▸ named) home unheld idle
    new counted

/-! ### Runs -/

/-- A recipe that is run builds a fresh value, or a service is resolved. -/
def Task.Fresh (clock : Clock World Instance) (events : Ledger Instance) (world : World) :
    Task World Instance → Prop
  | .resolve _ => True
  | .cook recipe => ∃ since, (∀ made ∈ events.instances, clock.stamp made < since) ∧
      recipe.Builds clock since world

/-- What a recipe has built is newer than what was made before. -/
def Task.Built (clock : Clock World Instance) (events : Ledger Instance) (world : World)
    (outcome : Outcome Instance) : Task World Instance → Prop
  | .resolve _ => True
  | .cook _ => ∀ made, outcome = .ok made →
      (∀ other ∈ events.instances, clock.stamp other < clock.stamp made) ∧
        clock.stamp made < clock.now world

/-- What is resolved is noted last. -/
theorem Runs.noted {depth : Nat} {trace : List (Event Instance)} {found : Instance}
    (runs : Runs depth handle (.resolve id) family trace (.ok found) after)
    (named : id.key = some key) : ∃ before, trace = before ++ [.resolved handle key found] := by
  cases runs with
  | @delegated _ _ _ own registration _ _ inner _ ownNamed _ _ _ onRoot =>
      obtain rfl : own = key := by simpa [named] using ownNamed.symm
      exact ⟨inner, rfl⟩
  | @kept _ _ _ own registration _ _ serves free held =>
      obtain rfl : own = key := by simpa [named] using serves.named.symm
      exact ⟨[], rfl⟩
  | @made _ _ _ own registration _ between inner _ serves free missing cooked =>
      obtain rfl : own = key := by simpa [named] using serves.named.symm
      exact ⟨inner ++ [.made handle own found], by simp⟩

/-- A run goes on from a family that keeps what its ledger says to one that does. -/
theorem Runs.keeping {depth : Nat} {task : Task World Instance} {trace : List (Event Instance)}
    {outcome : Outcome Instance} (runs : Runs depth handle task family trace outcome after) :
    ∀ {events : Ledger Instance}, Keeping clock events family → handle < family.size →
      task.Fresh clock events family.world →
      Keeping clock (events ++ trace) after ∧ clock.now family.world ≤ clock.now after.world ∧
        task.Built clock (events ++ trace) after.world outcome := by
  induction runs with
  | tooDeep | unkeyed _ | unknown _ _ | circular _ _ =>
      intro events keeping _ _
      rw [List.append_nil]
      exact ⟨keeping, Nat.le.refl, trivial⟩
  | fail =>
      intro events keeping _ _
      rw [List.append_nil]
      exact ⟨keeping, Nat.le.refl, nofun⟩
  | give =>
      intro events keeping _ fresh
      obtain ⟨since, below, new, counted⟩ := fresh
      rw [List.append_nil]
      refine ⟨keeping, Nat.le.refl, ?_⟩
      rintro made ⟨⟩
      exact ⟨fun other member => Nat.lt_of_lt_of_le (below other member) new, counted⟩
  | @delegated depth handle id key registration family after trace outcome named found single
      inherited onRoot induction =>
      intro events keeping there _
      obtain ⟨onward, later, -⟩ := induction keeping keeping.rooted trivial
      refine ⟨?_, later, trivial⟩
      rw [← List.append_assoc]
      cases outcome with
      | error fault => simpa [handedOut] using onward
      | ok made =>
          obtain ⟨before, rfl⟩ := onRoot.noted named
          have lifetimes := lifetimeOf_congr (onRoot.sameShape.registrations Handle.root)
          obtain ⟨-, ownNamed⟩ := keeping.lifetimeOf_serves there named found
          rw [single] at ownNamed
          have justified := onward.justified
          rw [← List.append_assoc] at justified
          have named : after.lifetimeOf key = some .singleton := lifetimes ▸ ownNamed
          obtain ⟨held, -⟩ := justified.resolved_follows named
          refine onward.resolved ⟨.singleton, named, fun _ => ?_,
            fun passing => absurd trivial passing⟩
          rw [← List.append_assoc, Ledger.holding_concat]
          exact held trivial
  | @kept depth handle id key registration family made serves free held =>
      intro events keeping there _
      obtain ⟨-, named⟩ := keeping.lifetimeOf_serves there serves.named serves.found
      have home := keeping.home there serves
      have keeps := keeps_of_kept? held
      refine ⟨keeping.resolved ⟨registration.lifetime, named, ?_, ?_⟩, Nat.le.refl, trivial⟩
      · intro _
        rw [home, ← keeping.held handle there key _ named home keeps]
        exact held
      · intro passing
        exact absurd (home.symm ▸ keeps) passing
  | @made depth handle id key registration family between trace made serves free missing cooked
      induction =>
      intro events keeping there _
      obtain ⟨registered, named⟩ := keeping.lifetimeOf_serves there serves.named serves.found
      have home := keeping.home there serves
      have entered := keeping.enter there serves missing
      obtain ⟨onward, later, built⟩ := induction entered there
        ⟨_, entered.counted, (keeping.fresh key registration registered).builds _⟩
      obtain ⟨new, counted⟩ := built made rfl
      have finished := onward.finish cooked.sameShape there serves.named free named home new counted
      refine ⟨?_, ?_, trivial⟩
      · rw [List.append_cons, ← List.append_assoc, ← List.append_assoc]
        have sameShape : family.SameShape _ := .trans (.leave cooked.sameShape)
          (.keep (between.leave handle) handle registration.lifetime key made)
        have lifetimes := lifetimeOf_congr (sameShape.registrations Handle.root)
        exact finished.resolved (.of_made (lifetimes ▸ named) home)
      · rw [world_keep]
        exact later
  | @failed depth handle id key registration family between trace fault serves free missing _
      induction =>
      intro events keeping there _
      obtain ⟨registered, -⟩ := keeping.lifetimeOf_serves there serves.named serves.found
      have entered := keeping.enter there serves missing
      obtain ⟨onward, later, -⟩ := induction entered there
        ⟨_, entered.counted, (keeping.fresh key registration registered).builds _⟩
      exact ⟨onward.leave handle, later, trivial⟩
  | read _ induction =>
      intro events keeping there fresh
      exact induction keeping there fresh
  | known _ induction =>
      intro events keeping there fresh
      obtain ⟨since, below, builds⟩ := fresh
      exact induction keeping there ⟨since, below, builds _⟩
  | write _ induction =>
      intro events keeping there fresh
      obtain ⟨since, below, later, builds⟩ := fresh
      obtain ⟨onward, stillLater, built⟩ := induction (keeping.write later) there
        ⟨since, below, builds⟩
      exact ⟨onward, Nat.le_trans later stillLater, built⟩
  | @need depth handle id rest family between after inner later found outcome asked _ resolved
      induction =>
      intro events keeping there fresh
      obtain ⟨since, below, builds⟩ := fresh
      obtain ⟨onward, passed, -⟩ := resolved keeping there trivial
      rw [← List.append_assoc]
      obtain ⟨last, stillLater, built⟩ := induction onward (asked.sameShape.size ▸ there)
        ⟨_, onward.counted, builds found between.world passed⟩
      exact ⟨last, Nat.le_trans passed stillLater, built⟩

end

end Family

end PageComposer.Service
