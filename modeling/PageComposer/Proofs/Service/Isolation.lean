import PageComposer.Proofs.Service.Lifetimes

/-!
# Isolation of scopes

`Family.Isolates` says what others can see of what happens on a scope: nothing, but for new
singletons of the root.  `Runs.isolates` shows it for a resolution, by induction over the
rules, and `performAll_isolates` for any number of steps.

`disposals` lists the disposers that run when a container is disposed of, each with its
instance.  `Recorded` ties what is kept to what was made, so that with factories that build
fresh values an instance that a scope disposes of is kept nowhere else.
-/

namespace PageComposer.Service

/-- A step that registers only a factory that builds fresh values. -/
def Step.Fresh {World Instance : Type} (clock : Clock World Instance) :
    Step World Instance → Prop
  | .register _ _ factory _ _ => factory.Fresh clock
  | .resolve .. | .createScope _ | .dispose _ => True

theorem Table.mem_insert {Entry : Type} {table : Table Entry} {key : Key} {entry : Entry}
    {row : Key × Entry} (member : row ∈ table.insert key entry) :
    row = (key, entry) ∨ row ∈ table := by
  induction table with
  | nil => exact .inl (List.mem_singleton.mp member)
  | cons first rest induction =>
      obtain ⟨name, old⟩ := first
      rw [Table.insert] at member
      split at member
      · rename_i same
        rcases List.mem_cons.mp member with new | behind
        · exact .inl (same ▸ new)
        · exact .inr (List.mem_cons_of_mem _ behind)
      · rcases List.mem_cons.mp member with here | behind
        · exact .inr (here ▸ List.mem_cons_self)
        · exact (induction behind).imp_right (List.mem_cons_of_mem _)

namespace Family

variable {World Instance : Type} {family after : Family World Instance} {handle : Handle}
  {id : Identifier} {key : Key} {registration : Registration World Instance}

/-! ### What a resolution does elsewhere -/

theorem container_enter_of_ne (family : Family World Instance) {handle other : Handle}
    (id : Identifier) (apart : other ≠ handle) :
    (family.enter handle id).container other = family.container other :=
  container_modify_of_ne family _ apart

theorem container_leave_of_ne (family : Family World Instance) {handle other : Handle}
    (apart : other ≠ handle) :
    (family.leave handle).container other = family.container other :=
  container_modify_of_ne family _ apart

/-- A resolution works on its own container and on the root, and on no other. -/
theorem Runs.container_of_ne {depth : Nat} {task : Task World Instance}
    {trace : List (Event Instance)} {outcome : Outcome Instance}
    (runs : Runs depth handle task family trace outcome after) {other : Handle}
    (apart : other ≠ handle) (inScope : other ≠ Handle.root) :
    after.container other = family.container other := by
  induction runs with
  | tooDeep | unkeyed _ | unknown _ _ | circular _ _ | kept _ _ _ | give | fail => rfl
  | delegated _ _ _ _ _ onRoot => exact onRoot inScope
  | made _ _ _ _ cooked =>
      rw [container_keep_of_ne _ _ _ _ apart, container_leave_of_ne _ apart, cooked apart,
        container_enter_of_ne _ _ apart]
  | failed _ _ _ _ cooked =>
      rw [container_leave_of_ne _ apart, cooked apart, container_enter_of_ne _ _ apart]
  | read _ onward | known _ onward => exact onward apart
  | write _ onward => exact onward apart
  | need _ _ asked onward => exact (onward apart).trans (asked apart)

/-- The root of a family is as it was, but for new singletons that are kept behind the old
ones; none of them was being created. -/
structure Extends (family after : Family World Instance) : Prop where
  perScope : (after.container Handle.root).perScope = (family.container Handle.root).perScope
  singletons : ∃ added, (after.container Handle.root).singletons =
      (family.container Handle.root).singletons ++ added ∧
    ∀ row ∈ added, family.lifetimeOf row.1 = some .singleton ∧
      ¬ family.IsCreating Handle.root row.1

theorem Extends.of_container (same : after.container Handle.root = family.container Handle.root) :
    family.Extends after where
  perScope := by rw [same]
  singletons := ⟨[], by rw [same, List.append_nil], nofun⟩

theorem Extends.trans {first second third : Family World Instance}
    (left : first.Extends second) (shape : first.SameShape second)
    (right : second.Extends third) : first.Extends third where
  perScope := right.perScope.trans left.perScope
  singletons := by
    obtain ⟨early, leftSame, leftAdded⟩ := left.singletons
    obtain ⟨late, rightSame, rightAdded⟩ := right.singletons
    refine ⟨early ++ late, by rw [rightSame, leftSame, List.append_assoc], ?_⟩
    intro row member
    rcases List.mem_append.mp member with before | behind
    · exact leftAdded row before
    · obtain ⟨single, free⟩ := rightAdded row behind
      rw [lifetimeOf_congr (shape.registrations Handle.root)] at single
      rw [IsCreating, shape.creating] at free
      exact ⟨single, free⟩

/-- What is being created on the root is not kept there in the meantime. -/
theorem Extends.get?_of_creating (grown : family.Extends after)
    (creating : family.IsCreating Handle.root key) :
    Table.get? (after.container Handle.root).singletons key =
      Table.get? (family.container Handle.root).singletons key := by
  obtain ⟨added, same, fresh⟩ := grown.singletons
  have absent : Table.get? added key = none := by
    apply Table.get?_eq_none_of_not_mem
    rintro row member rfl
    exact (fresh row member).2 creating
  rw [same, Table.get?_append, absent, Option.or_none]

theorem Extends.leave {between : Family World Instance}
    (inside : (family.enter handle id).Extends between) :
    family.Extends (between.leave handle) := by
  obtain ⟨perScope, added, singletons, fresh⟩ := inside
  have entered : ((family.enter handle id).container Handle.root).singletons =
        (family.container Handle.root).singletons ∧
      ((family.enter handle id).container Handle.root).perScope =
        (family.container Handle.root).perScope := by
    by_cases same : Handle.root = handle <;> simp [Family.enter, modify, same]
  have left : ((between.leave handle).container Handle.root).singletons =
        (between.container Handle.root).singletons ∧
      ((between.leave handle).container Handle.root).perScope =
        (between.container Handle.root).perScope := by
    by_cases same : Handle.root = handle <;> simp [Family.leave, modify, same]
  refine ⟨by rw [left.2, perScope, entered.2], added, by rw [left.1, singletons, entered.1], ?_⟩
  intro row member
  obtain ⟨single, idle⟩ := fresh row member
  rw [lifetimeOf_congr (registrations_enter family handle Handle.root id)] at single
  exact ⟨single, fun creating => idle (creating.enter handle id)⟩

theorem Extends.keep {made : Instance} {lifetime : Lifetime} (grown : family.Extends after)
    (free : ¬ family.IsCreating Handle.root key)
    (single : lifetime = .singleton → family.lifetimeOf key = some .singleton ∧
      Table.get? (after.container Handle.root).singletons key = none) :
    family.Extends (after.keep Handle.root lifetime key made) := by
  cases lifetime with
  | transient => exact grown
  | perScope => simpa [Family.keep] using grown
  | singleton =>
      obtain ⟨named, unheld⟩ := single rfl
      obtain ⟨perScope, added, singletons, fresh⟩ := grown
      refine ⟨by simpa [Family.keep] using perScope, added ++ [(key, made)], ?_, ?_⟩
      · have appended := Table.insert_of_get?_eq_none unheld made
        simp only [Family.keep, container_modify_self]
        rw [appended, singletons, List.append_assoc]
      · intro row member
        rcases List.mem_append.mp member with early | late
        · exact fresh row early
        · obtain rfl := List.mem_singleton.mp late
          exact ⟨named, free⟩

theorem Runs.extends {depth : Nat} {task : Task World Instance}
    {trace : List (Event Instance)} {outcome : Outcome Instance}
    (runs : Runs depth handle task family trace outcome after) : family.Extends after := by
  induction runs with
  | tooDeep | unkeyed _ | unknown _ _ | circular _ _ | kept _ _ _ | give | fail =>
      exact .of_container rfl
  | delegated _ _ _ _ _ onRoot => exact onRoot
  | @made depth handle id key registration family between trace made serves free missing cooked
      inside =>
      by_cases atRoot : handle = Handle.root
      · subst atRoot
        refine inside.leave.keep free fun single => ?_
        have creating : (family.enter Handle.root id).IsCreating Handle.root key :=
          ⟨id, by simp [Family.enter], serves.named⟩
        have unheld := inside.get?_of_creating creating
        have found := serves.get?
        rw [single] at missing
        refine ⟨by rw [lifetimeOf, found, Option.map_some, single], ?_⟩
        have kept : Table.get? (between.container Handle.root).singletons key = none := by
          rw [unheld]
          exact (kept?_enter id Handle.root).trans missing
        simpa [Family.leave] using kept
      · have apart := container_keep_of_ne (between.leave handle) registration.lifetime key made
          (Ne.symm atRoot)
        exact ⟨by rw [apart]; exact inside.leave.perScope,
          by rw [apart]; exact inside.leave.singletons⟩
  | failed _ _ _ _ inside => exact inside.leave
  | read _ onward | known _ onward => exact onward
  | write _ onward => exact ⟨onward.perScope, onward.singletons⟩
  | need asked _ first onward => exact first.trans asked.sameShape onward

/-! ### Steps on a scope -/

/-- What happens on a scope does not show on other containers: they are as they were, and
the root keeps what it kept and new singletons behind it, each of a service that the root
has as a singleton. -/
structure Isolates (family : Family World Instance) (scope : Handle)
    (after : Family World Instance) : Prop where
  size : family.size ≤ after.size
  others : ∀ other < family.size, other ≠ scope → other ≠ Handle.root →
    after.container other = family.container other
  registrations : (after.container Handle.root).registrations =
    (family.container Handle.root).registrations
  perScope : (after.container Handle.root).perScope = (family.container Handle.root).perScope
  singletons : ∃ added, (after.container Handle.root).singletons =
      (family.container Handle.root).singletons ++ added ∧
    ∀ row ∈ added, family.lifetimeOf row.1 = some .singleton

theorem Isolates.of_container {scope : Handle} (size : family.size ≤ after.size)
    (same : ∀ other < family.size, other ≠ scope → after.container other = family.container other)
    (there : scope < family.size) (inScope : scope ≠ Handle.root) :
    family.Isolates scope after := by
  have rooted : Handle.root < family.size := Nat.lt_of_le_of_lt (Nat.zero_le scope) there
  have root := same Handle.root rooted (Ne.symm inScope)
  exact ⟨size, fun other before apart _ => same other before apart, by rw [root], by rw [root],
    [], by rw [root, List.append_nil], nofun⟩

theorem Isolates.trans {first second third : Family World Instance} {scope : Handle}
    (left : first.Isolates scope second) (right : second.Isolates scope third) :
    first.Isolates scope third where
  size := Nat.le_trans left.size right.size
  others other before apart inScope :=
    (right.others other (Nat.lt_of_lt_of_le before left.size) apart inScope).trans
      (left.others other before apart inScope)
  registrations := right.registrations.trans left.registrations
  perScope := right.perScope.trans left.perScope
  singletons := by
    obtain ⟨early, leftSame, leftAdded⟩ := left.singletons
    obtain ⟨late, rightSame, rightAdded⟩ := right.singletons
    refine ⟨early ++ late, by rw [rightSame, leftSame, List.append_assoc], ?_⟩
    intro row member
    rcases List.mem_append.mp member with before | behind
    · exact leftAdded row before
    · exact lifetimeOf_congr left.registrations ▸ rightAdded row behind

theorem perform_isolates {step : Step World Instance} (there : step.handle < family.size)
    (inScope : step.handle ≠ Handle.root) : family.Isolates step.handle (family.perform step) := by
  cases step with
  | register scope id factory lifetime metadata =>
      rcases perform_register family scope id factory lifetime metadata with same | ⟨key, -, same⟩
      · rw [same]
        exact .of_container Nat.le.refl (fun _ _ _ => rfl) there inScope
      · rw [same]
        exact .of_container Nat.le.refl
          (fun _ _ apart => container_withRegistration_of_ne apart) there inScope
  | resolve scope id =>
      obtain ⟨trace, runs⟩ := runs_resolveAt (family.depth scope) scope id family
      have shape := runs.sameShape
      obtain ⟨perScope, added, singletons, fresh⟩ := runs.extends
      exact ⟨Nat.le_of_eq shape.size.symm, fun _ _ apart inScope => runs.container_of_ne apart inScope,
        shape.registrations _, perScope, added, singletons, fun row member => (fresh row member).1⟩
  | createScope scope =>
      exact .of_container (Nat.le_succ _) (fun _ before _ => container_createScope_of_lt before)
        there inScope
  | dispose scope =>
      exact .of_container Nat.le.refl (fun _ _ apart => container_dispose_of_ne apart) there inScope

theorem performAll_isolates {scope : Handle} {steps : List (Step World Instance)}
    (there : scope < family.size) (inScope : scope ≠ Handle.root)
    (onScope : ∀ step ∈ steps, step.handle = scope) :
    family.Isolates scope (family.performAll steps) := by
  induction steps generalizing family with
  | nil => exact .of_container Nat.le.refl (fun _ _ _ => rfl) there inScope
  | cons step rest induction =>
      obtain rfl : step.handle = scope := onScope step List.mem_cons_self
      have first : family.Isolates step.handle (family.perform step) :=
        perform_isolates there inScope
      have onward := induction (Nat.lt_of_lt_of_le there first.size)
        fun other member => onScope other (List.mem_cons_of_mem _ member)
      exact first.trans onward

/-! ### Disposers -/

/-- The disposers that run when a container is disposed of, each with its instance. -/
def disposals (container : Container World Instance) : List (Factory World Instance × Instance) :=
  container.singletons.filterMap fun row =>
    (Table.get? container.registrations row.1).map fun registration =>
      (registration.factory, row.2)

/-- Disposing of a container runs these disposers in order and nothing else. -/
theorem world_dispose (family : Family World Instance) (handle : Handle) :
    (family.dispose handle).world = (disposals (family.container handle)).foldl
      (fun world disposal => (disposal.1.dispose disposal.2 world).2) family.world := by
  have runs (container : Container World Instance) (table : Table Instance) (world : World) :
      release container table world = (table.filterMap fun row =>
        (Table.get? container.registrations row.1).map fun registration =>
          (registration.factory, row.2)).foldl
            (fun world disposal => (disposal.1.dispose disposal.2 world).2) world := by
    induction table generalizing world with
    | nil => rfl
    | cons row rest induction =>
        obtain ⟨key, made⟩ := row
        rw [release, List.filterMap_cons]
        cases Table.get? container.registrations key with
        | none => exact induction world
        | some registration => exact induction _
  exact runs (family.container handle) (family.container handle).singletons family.world

theorem mem_disposals {container : Container World Instance}
    {disposal : Factory World Instance × Instance} (member : disposal ∈ disposals container) :
    ∃ key registration, (key, disposal.2) ∈ container.singletons ∧
      Table.get? container.registrations key = some registration ∧
      registration.factory = disposal.1 := by
  obtain ⟨⟨key, made⟩, kept, same⟩ := List.mem_filterMap.mp member
  obtain ⟨registration, found, rfl⟩ := Option.map_eq_some_iff.mp same
  exact ⟨key, registration, kept, found, rfl⟩

/-! ### What is made is kept in one place -/

/-- All that a container keeps. -/
def rows (family : Family World Instance) (handle : Handle) : Table Instance :=
  (family.container handle).singletons ++ (family.container handle).perScope

theorem rows_enter (family : Family World Instance) (handle other : Handle) (id : Identifier) :
    (family.enter handle id).rows other = family.rows other := by
  by_cases same : other = handle <;> simp [rows, Family.enter, modify, same]

theorem rows_leave (family : Family World Instance) (handle other : Handle) :
    (family.leave handle).rows other = family.rows other := by
  by_cases same : other = handle <;> simp [rows, Family.leave, modify, same]

theorem mem_rows_keep {lifetime : Lifetime} {made : Instance} {other : Handle}
    {row : Key × Instance} (member : row ∈ (family.keep handle lifetime key made).rows other) :
    row ∈ family.rows other ∨ other = handle ∧ row = (key, made) := by
  by_cases here : other = handle
  · subst here
    cases lifetime with
    | transient => exact .inl member
    | singleton =>
        simp only [rows, Family.keep, container_modify_self, List.mem_append] at member
        rcases member with single | other
        · rcases Table.mem_insert single with new | before
          · exact .inr ⟨rfl, new⟩
          · exact .inl (List.mem_append_left _ before)
        · exact .inl (List.mem_append_right _ other)
    | perScope =>
        simp only [rows, Family.keep] at member
        split at member
        · exact .inl member
        · simp only [container_modify_self, List.mem_append] at member
          rcases member with single | other
          · exact .inl (List.mem_append_left _ single)
          · rcases Table.mem_insert other with new | before
            · exact .inr ⟨rfl, new⟩
            · exact .inl (List.mem_append_right _ before)
  · rw [rows, container_keep_of_ne _ _ _ _ here] at member
    exact .inl member

/-- A family keeps what was made according to a ledger, each instance where it was made; the
factories build fresh values, and nothing was made in two places. -/
structure Recorded (clock : Clock World Instance) (events : Ledger Instance)
    (family : Family World Instance) : Prop where
  fresh : ∀ handle key registration,
    Table.get? (family.container handle).registrations key = some registration →
      registration.factory.Fresh clock
  kept : ∀ handle, ∀ row ∈ family.rows handle, .made handle row.1 row.2 ∈ events
  counted : ∀ made ∈ events.instances, clock.stamp made < clock.now family.world
  once : ∀ handle other key name made, .made handle key made ∈ events →
    .made other name made ∈ events → handle = other

section

variable {clock : Clock World Instance} {events : Ledger Instance} {lifetime : Lifetime}

/-- A step that registers nothing and keeps nothing new. -/
theorem Recorded.transfer (recorded : Recorded clock events family)
    (registrations : ∀ handle, (after.container handle).registrations =
      (family.container handle).registrations)
    (kept : ∀ handle, ∀ row ∈ after.rows handle, row ∈ family.rows handle)
    (later : clock.now family.world ≤ clock.now after.world) : Recorded clock events after where
  fresh handle key registration found :=
    recorded.fresh handle key registration (registrations handle ▸ found)
  kept handle row member := recorded.kept handle row (kept handle row member)
  counted made member := Nat.lt_of_lt_of_le (recorded.counted made member) later
  once := recorded.once

theorem Recorded.enter (recorded : Recorded clock events family) (handle : Handle)
    (id : Identifier) : Recorded clock events (family.enter handle id) :=
  recorded.transfer (fun other => registrations_enter family handle other id)
    (fun other _ member => rows_enter family handle other id ▸ member) Nat.le.refl

theorem Recorded.leave (recorded : Recorded clock events family) (handle : Handle) :
    Recorded clock events (family.leave handle) :=
  recorded.transfer (fun other => registrations_leave family handle other)
    (fun other _ member => rows_leave family handle other ▸ member) Nat.le.refl

theorem Recorded.resolved {found : Instance} (recorded : Recorded clock events family) :
    Recorded clock (events ++ [.resolved handle key found]) family where
  fresh := recorded.fresh
  kept other row member := List.mem_append_left _ (recorded.kept other row member)
  counted := by simpa [Ledger.instances_append, Ledger.instances] using recorded.counted
  once := by simpa using recorded.once

theorem Recorded.handedOut (recorded : Recorded clock events family) (handle : Handle)
    (key : Key) (outcome : Outcome Instance) :
    Recorded clock (events ++ handedOut handle key outcome) family := by
  cases outcome with
  | ok found => exact recorded.resolved
  | error fault => simpa [Family.handedOut] using recorded

/-- A new instance is kept where it was made. -/
theorem Recorded.keep (handle : Handle) (key : Key) (lifetime : Lifetime) {made : Instance}
    (recorded : Recorded clock events family)
    (new : ∀ other ∈ events.instances, clock.stamp other < clock.stamp made)
    (counted : clock.stamp made < clock.now family.world) :
    Recorded clock (events ++ [.made handle key made])
      (family.keep handle lifetime key made) where
  fresh other name registration found := by
    rw [(SameShape.keep family handle lifetime key made).registrations] at found
    exact recorded.fresh other name registration found
  kept other row member := by
    rcases mem_rows_keep member with before | ⟨rfl, rfl⟩
    · exact List.mem_append_left _ (recorded.kept other row before)
    · exact List.mem_append_right _ (List.mem_singleton_self _)
  counted value member := by
    rw [world_keep]
    rw [Ledger.instances_append, List.mem_append] at member
    rcases member with before | last
    · exact recorded.counted value before
    · obtain rfl : value = made := by simpa [Ledger.instances] using last
      exact counted
  once := by
    have unmade (other : Handle) (name : Key) : .made other name made ∉ events := by
      intro member
      exact Nat.lt_irrefl _ (new made (Ledger.mem_instances_iff.mpr ⟨other, name, member⟩))
    intro first second key name value early late
    simp only [List.mem_append, List.mem_singleton, Event.made.injEq] at early late
    rcases early with early | ⟨rfl, -, rfl⟩ <;> rcases late with late | ⟨rfl, -, same⟩
    · exact recorded.once first second key name value early late
    · exact absurd (same ▸ early) (unmade first key)
    · exact absurd late (unmade second name)
    · rfl

/-- A run notes all that it makes and keeps. -/
theorem Runs.recorded {depth : Nat} {task : Task World Instance} {trace : List (Event Instance)}
    {outcome : Outcome Instance} (runs : Runs depth handle task family trace outcome after) :
    ∀ {events : Ledger Instance}, Recorded clock events family →
      task.Fresh clock events family.world →
      Recorded clock (events ++ trace) after ∧ clock.now family.world ≤ clock.now after.world ∧
        task.Built clock (events ++ trace) after.world outcome := by
  induction runs with
  | tooDeep | unkeyed _ | unknown _ _ | circular _ _ =>
      intro events recorded _
      rw [List.append_nil]
      exact ⟨recorded, Nat.le.refl, trivial⟩
  | fail =>
      intro events recorded _
      rw [List.append_nil]
      exact ⟨recorded, Nat.le.refl, nofun⟩
  | give =>
      intro events recorded fresh
      obtain ⟨since, below, new, counted⟩ := fresh
      rw [List.append_nil]
      refine ⟨recorded, Nat.le.refl, ?_⟩
      rintro made ⟨⟩
      exact ⟨fun other member => Nat.lt_of_lt_of_le (below other member) new, counted⟩
  | delegated _ _ _ _ _ onRoot =>
      intro events recorded _
      obtain ⟨onward, later, -⟩ := onRoot recorded trivial
      rw [← List.append_assoc]
      exact ⟨onward.handedOut .., later, trivial⟩
  | kept _ _ _ =>
      intro events recorded _
      exact ⟨recorded.resolved, Nat.le.refl, trivial⟩
  | @made depth handle id key registration family between trace made serves _ _ _ induction =>
      intro events recorded _
      have found := serves.get?
      have entered := recorded.enter handle id
      obtain ⟨onward, later, built⟩ := induction entered
        ⟨_, entered.counted, (recorded.fresh handle key registration found).builds _⟩
      obtain ⟨new, counted⟩ := built made rfl
      have finished := (onward.leave handle).keep handle key registration.lifetime new counted
      refine ⟨?_, ?_, trivial⟩
      · rw [List.append_cons, ← List.append_assoc, ← List.append_assoc]
        exact finished.resolved
      · rw [world_keep]
        exact later
  | @failed depth handle id key registration family between trace fault serves _ _ _ induction =>
      intro events recorded _
      have found := serves.get?
      have entered := recorded.enter handle id
      obtain ⟨onward, later, -⟩ := induction entered
        ⟨_, entered.counted, (recorded.fresh handle key registration found).builds _⟩
      exact ⟨onward.leave handle, later, trivial⟩
  | read _ induction =>
      intro events recorded fresh
      exact induction recorded fresh
  | known _ induction =>
      intro events recorded fresh
      obtain ⟨since, below, builds⟩ := fresh
      exact induction recorded ⟨since, below, builds _⟩
  | @write depth handle world rest family after trace outcome _ induction =>
      intro events recorded fresh
      obtain ⟨since, below, later, builds⟩ := fresh
      have written : Recorded clock events { family with world := world } :=
        recorded.transfer (fun _ => rfl) (fun _ _ member => member) later
      obtain ⟨onward, stillLater, built⟩ := induction written ⟨since, below, builds⟩
      exact ⟨onward, Nat.le_trans later stillLater, built⟩
  | need _ _ resolved induction =>
      intro events recorded fresh
      obtain ⟨since, below, builds⟩ := fresh
      obtain ⟨onward, passed, -⟩ := resolved recorded trivial
      obtain ⟨last, later, built⟩ := induction onward ⟨_, onward.counted, builds _ _ passed⟩
      rw [← List.append_assoc]
      exact ⟨last, Nat.le_trans passed later, built⟩

theorem recorded_start (clock : Clock World Instance) (world : World) :
    Recorded clock [] (.start world) where
  fresh _ _ _ found := by simp [Family.start, Container.empty, Table.get?] at found
  kept _ _ member := by simp [rows, Family.start, Container.empty] at member
  counted _ member := by simp [Ledger.instances] at member
  once _ _ _ _ _ member := by simp at member

theorem Recorded.perform (recorded : Recorded clock events family) {step : Step World Instance}
    (fresh : step.Fresh clock) :
    ∃ more, Recorded clock (events ++ more) (family.perform step) := by
  cases step with
  | register handle id factory lifetime metadata =>
      refine ⟨[], ?_⟩
      rw [List.append_nil]
      rcases perform_register family handle id factory lifetime metadata with same | ⟨key, -, same⟩
      · rw [same]
        exact recorded
      · rw [same]
        refine { recorded with fresh := ?_, kept := ?_ }
        · intro other name registration found
          by_cases here : other = handle
          · subst here
            simp only [withRegistration, modify, if_true, Table.get?_insert] at found
            split at found
            · obtain rfl := Option.some.inj found
              exact fresh
            · exact recorded.fresh other name registration found
          · rw [container_withRegistration_of_ne here] at found
            exact recorded.fresh other name registration found
        · intro other row member
          apply recorded.kept other row
          by_cases here : other = handle
          · simpa [rows, withRegistration, modify, here] using member
          · rwa [rows, container_withRegistration_of_ne here] at member
  | resolve handle id =>
      obtain ⟨trace, runs⟩ := runs_resolveAt (family.depth handle) handle id family
      exact ⟨trace, (runs.recorded recorded trivial).1⟩
  | createScope handle =>
      refine ⟨[], ?_⟩
      rw [List.append_nil]
      have elsewhere (other : Handle) (apart : other ≠ family.size) :
          (family.createScope handle).2.container other = family.container other := by
        simp [Family.createScope, modify, apart]
      refine { recorded with fresh := ?_, kept := ?_ }
      · intro other name registration found
        by_cases new : other = family.size
        · rw [new, Family.perform, container_createScope_self] at found
          exact recorded.fresh handle name registration found
        · rw [Family.perform, elsewhere other new] at found
          exact recorded.fresh other name registration found
      · intro other row member
        by_cases new : other = family.size
        · simp [rows, new, Family.perform, container_createScope_self] at member
        · rw [rows, Family.perform, elsewhere other new] at member
          exact recorded.kept other row member
  | dispose handle =>
      refine ⟨[], ?_⟩
      rw [List.append_nil]
      refine recorded.transfer ?_ ?_ (now_release (recorded.fresh handle) _ _)
      · intro other
        by_cases here : other = handle
        · rw [here, Family.perform, container_dispose_self]
        · rw [Family.perform, container_dispose_of_ne here]
      · intro other row member
        by_cases here : other = handle
        · simp [rows, here, Family.perform, container_dispose_self] at member
        · rwa [rows, Family.perform, container_dispose_of_ne here] at member

theorem Recorded.performAll (recorded : Recorded clock events family)
    {steps : List (Step World Instance)} (fresh : ∀ step ∈ steps, step.Fresh clock) :
    ∃ more, Recorded clock (events ++ more) (family.performAll steps) := by
  induction steps generalizing events family with
  | nil =>
      refine ⟨[], ?_⟩
      rw [List.append_nil]
      exact recorded
  | cons step rest induction =>
      obtain ⟨first, recorded⟩ := recorded.perform (fresh step List.mem_cons_self)
      obtain ⟨later, onward⟩ := induction recorded fun other member =>
        fresh other (List.mem_cons_of_mem _ member)
      exact ⟨first ++ later, by rwa [← List.append_assoc]⟩

end

/-- Whatever is done on a scope, other containers do not notice, except that the root may
keep new singletons of its own.  Disposing of the scope then runs, for what the scope keeps
itself and for nothing else, the disposers that the scope has registered; and with factories
that build fresh values no other container keeps an instance that is disposed of. -/
theorem isolated (family : Family World Instance) (scope : Handle) (steps : List (Step World Instance))
    (there : scope < family.size) (inScope : scope ≠ Handle.root)
    (onScope : ∀ step ∈ steps, step.handle = scope) :
    family.Isolates scope (family.performAll steps) ∧
    ((family.performAll steps).dispose scope).world =
      (disposals ((family.performAll steps).container scope)).foldl
        (fun world disposal => (disposal.1.dispose disposal.2 world).2)
        (family.performAll steps).world ∧
    (∀ disposal ∈ disposals ((family.performAll steps).container scope), ∃ key registration,
      (key, disposal.2) ∈ ((family.performAll steps).container scope).singletons ∧
      Table.get? ((family.performAll steps).container scope).registrations key =
        some registration ∧ registration.factory = disposal.1) ∧
    (∀ (clock : Clock World Instance) (world : World) (earlier : List (Step World Instance)),
      family = (Family.start world).performAll earlier →
      (∀ step ∈ earlier ++ steps, step.Fresh clock) →
      ∀ disposal ∈ disposals ((family.performAll steps).container scope), ∀ other,
        ∀ row ∈ (family.performAll steps).rows other, row.2 = disposal.2 → other = scope) := by
  refine ⟨performAll_isolates there inScope onScope, world_dispose _ scope,
    fun disposal member => mem_disposals member, ?_⟩
  rintro clock world earlier rfl fresh disposal member other ⟨name, made⟩ elsewhere rfl
  obtain ⟨events, recorded⟩ := (recorded_start clock world).performAll fresh
  rw [performAll, List.foldl_append] at recorded
  obtain ⟨key, registration, here, -, -⟩ := mem_disposals member
  have madeHere := recorded.kept scope _ (List.mem_append_left _ here)
  have madeElsewhere := recorded.kept other _ elsewhere
  exact recorded.once other scope name key _ madeElsewhere madeHere

/-! ### Two scopes with sessions of their own -/

/-- Instances are numbered, and disposing of one takes its time. -/
def closingFactory : Factory Nat Nat :=
  { countingFactory with dispose := fun _ count => (.ok (), count + 10) }

theorem closingFactory_fresh : closingFactory.Fresh counting where
  builds := countingFactory_fresh.builds
  disposes _ count := Nat.le_add_right count 10

/-- The root has settings, and a scope beside the one in question has a session. -/
def sessionEarlier : List (Step Nat Nat) := [
  .register Handle.root settings closingFactory .singleton [],
  .createScope Handle.root,
  .createScope Handle.root,
  .register 2 (.ofText "session") closingFactory .singleton [],
  .resolve 2 (.ofText "session")]

def sessionSteps : List (Step Nat Nat) := [
  .register 1 (.ofText "session") closingFactory .singleton [],
  .resolve 1 (.ofText "session"),
  .resolve 1 settings]

def sessionFamily : Family Nat Nat := (Family.start 0).performAll sessionEarlier

theorem isolated_session :
    1 < sessionFamily.size ∧ (1 : Handle) ≠ Handle.root ∧
      (∀ step ∈ sessionSteps, step.handle = 1) ∧
      sessionFamily.Isolates 1 (sessionFamily.performAll sessionSteps) ∧
      (disposals ((sessionFamily.performAll sessionSteps).container 1)).map Prod.snd = [1] ∧
      ((sessionFamily.performAll sessionSteps).dispose 1).world = 13 ∧
      ∀ disposal ∈ disposals ((sessionFamily.performAll sessionSteps).container 1), ∀ other,
        ∀ row ∈ (sessionFamily.performAll sessionSteps).rows other,
          row.2 = disposal.2 → other = 1 := by
  have onScope : ∀ step ∈ sessionSteps, step.handle = 1 := by decide
  have fresh : ∀ step ∈ sessionEarlier ++ sessionSteps, step.Fresh counting := by
    simp [sessionEarlier, sessionSteps, Step.Fresh, closingFactory_fresh]
  obtain ⟨isolates, -, -, apart⟩ :=
    isolated sessionFamily 1 sessionSteps (by decide) (by decide) onScope
  exact ⟨by decide, by decide, onScope, isolates, by decide, by decide,
    apart counting 0 sessionEarlier rfl fresh⟩

/-! ### Instances that two containers keep -/

/-- A factory that builds nothing of its own: it gives what it resolves. -/
def aliasFactory : Factory Nat Nat :=
  { closingFactory with create := .require settings .give }

/-- The root keeps its settings, and there is a scope. -/
def aliasEarlier : List (Step Nat Nat) := [
  .register Handle.root settings closingFactory .singleton [],
  .resolve Handle.root settings,
  .createScope Handle.root]

def aliasSteps : List (Step Nat Nat) := [
  .register 1 (.ofText "alias") aliasFactory .singleton [],
  .resolve 1 (.ofText "alias")]

def aliasFamily : Family Nat Nat := (Family.start 0).performAll aliasEarlier

/-- A factory that gives a value which is there already. -/
def valueFactory (value : Nat) : Factory Nat Nat := .ofRecipe (.give value)

/-- The root keeps a value and has another registered since; the scope has the first one. -/
def valueEarlier : List (Step Nat Nat) := [
  .register Handle.root settings (valueFactory 7) .singleton [],
  .resolve Handle.root settings,
  .createScope Handle.root,
  .register Handle.root settings (valueFactory 8) .singleton []]

def valueSteps : List (Step Nat Nat) := [
  .resolve 1 settings,
  .register 1 settings closingFactory .singleton []]

def valueFamily : Family Nat Nat := (Family.start 0).performAll valueEarlier

/-- Disposing of a scope disposes of an instance that the root keeps, when the scope has
resolved it under another name by a factory that resolves from the container it is handed and
from nowhere else, or when both were given one value. -/
theorem isolated_alias :
    (∀ step ∈ aliasSteps, step.handle = 1) ∧ (∀ step ∈ valueSteps, step.handle = 1) ∧
      ((aliasFamily.performAll aliasSteps).container Handle.root).singletons =
        [(.text "settings", 0)] ∧
      (disposals ((aliasFamily.performAll aliasSteps).container 1)).map Prod.snd = [0] ∧
      ((aliasFamily.performAll aliasSteps).dispose 1).world = 11 ∧
      ((valueFamily.performAll valueSteps).container Handle.root).singletons =
        [(.text "settings", 7)] ∧
      (disposals ((valueFamily.performAll valueSteps).container 1)).map Prod.snd = [7] ∧
      ((valueFamily.performAll valueSteps).dispose 1).world = 10 := by
  decide

end Family

end PageComposer.Service
