import PageComposer.Proofs.Service.Creations

/-!
# What stands from step to step

Between steps a family is `Rested`: nothing is being created, and no registration has the
next serial yet.  What a step does to a container is told once, by `Turn`.  Until a service is
registered anew on a container, the container has the same registration of it, and what it
keeps of the service is what it kept before and what was created since, as far as it was not
disposed of.
-/

namespace PageComposer.Service

/-- A step that registers a service on a container. -/
def Step.Registers {World Instance : Type} (handle : Handle) (key : Key) :
    Step World Instance → Prop
  | .register other id .. => other = handle ∧ id.key = some key
  | .resolve .. | .createScope _ | .dispose _ => False

def Step.Disposes {World Instance : Type} (handle : Handle) : Step World Instance → Prop
  | .dispose other => other = handle
  | .register .. | .resolve .. | .createScope _ => False

namespace Family

variable {World Instance : Type} {family after : Family World Instance} {handle : Handle}
  {id : Identifier} {key : Key} {registration : Registration World Instance}
  {step : Step World Instance} {steps : List (Step World Instance)}

theorem performAll_append (family : Family World Instance)
    (early late : List (Step World Instance)) :
    family.performAll (early ++ late) = (family.performAll early).performAll late :=
  List.foldl_append

theorem creationsAll_append (family : Family World Instance)
    (early late : List (Step World Instance)) :
    family.creationsAll (early ++ late) =
      family.creationsAll early ++ (family.performAll early).creationsAll late := by
  induction early generalizing family with
  | nil => rfl
  | cons step rest induction =>
      rw [List.cons_append, creationsAll, creationsAll, induction, List.append_assoc]
      rfl

/-! ### Registrations -/

theorem size_le_perform (family : Family World Instance) (step : Step World Instance) :
    family.size ≤ (family.perform step).size := by
  cases step with
  | register other id factory lifetime metadata =>
      rcases perform_register family other id factory lifetime metadata with same | ⟨key, -, same⟩
      · exact Nat.le_of_eq (by rw [same])
      · exact Nat.le_of_eq (by rw [same]; rfl)
  | resolve other id => exact Nat.le_of_eq (sameShape_resolveAt _ other id family).size.symm
  | createScope other => exact Nat.le_succ _
  | dispose other => exact Nat.le.refl

theorem nextSerial_le_perform (family : Family World Instance) (step : Step World Instance) :
    family.nextSerial ≤ (family.perform step).nextSerial := by
  cases step with
  | register other id factory lifetime metadata =>
      rcases perform_register family other id factory lifetime metadata with same | ⟨key, -, same⟩
      · exact Nat.le_of_eq (by rw [same])
      · rw [same]
        exact Nat.le_succ _
  | resolve other id => exact Nat.le_of_eq (sameShape_resolveAt _ other id family).nextSerial.symm
  | createScope other | dispose other => exact Nat.le.refl

theorem nextSerial_le_performAll (family : Family World Instance)
    (steps : List (Step World Instance)) :
    family.nextSerial ≤ (family.performAll steps).nextSerial := by
  induction steps generalizing family with
  | nil => exact Nat.le.refl
  | cons step rest induction =>
      exact Nat.le_trans (nextSerial_le_perform family step) (induction _)

theorem container_withRegistration_self (family : Family World Instance) (handle : Handle)
    (key : Key) (registration : Registration World Instance) :
    (family.withRegistration handle key registration).container handle =
      { family.container handle with
        registrations := (family.container handle).registrations.insert key registration } := by
  simp [withRegistration]

theorem get?_withRegistration (other : Handle) (name : Key) :
    Table.get? ((family.withRegistration handle key registration).container other).registrations
        name =
      if other = handle ∧ key = name then some registration
      else Table.get? (family.container other).registrations name := by
  by_cases here : other = handle
  · simp [withRegistration, modify, here, Table.get?_insert]
  · rw [container_withRegistration_of_ne here, if_neg fun both => here both.1]

/-! ### What a step does to a container -/

/-- A step does nothing to a container, or registers a service on it, or is a resolution, or
makes it as a scope, or disposes of it. -/
inductive Turn (family : Family World Instance) (handle : Handle) (step : Step World Instance) :
    Prop where
  | untouched (spared : ¬ step.Disposes handle) (uncreated : family.creationsOf step = [])
      (same : (family.perform step).container handle = family.container handle)
  | registered {key : Key} {registration : Registration World Instance}
      (spared : ¬ step.Disposes handle) (uncreated : family.creationsOf step = [])
      (registers : step.Registers handle key) (new : registration.serial = family.nextSerial)
      (later : family.nextSerial < (family.perform step).nextSerial)
      (same : (family.perform step).container handle =
        { family.container handle with
          registrations := (family.container handle).registrations.insert key registration })
  | resolved {other : Handle} {id : Identifier} (same : step = .resolve other id)
  | made {other : Handle} (uncreated : family.creationsOf step = []) (new : handle = family.size)
      (same : (family.perform step).container handle =
        ⟨(family.container other).registrations, [], [], []⟩)
  | disposed (uncreated : family.creationsOf step = []) (disposes : step.Disposes handle)
      (same : (family.perform step).container handle =
        ⟨(family.container handle).registrations, [], [], []⟩)

theorem turn (family : Family World Instance) (handle : Handle) (step : Step World Instance) :
    family.Turn handle step := by
  cases step with
  | register other id factory lifetime metadata =>
      rcases perform_register family other id factory lifetime metadata with
        same | ⟨key, named, same⟩
      · exact .untouched not_false rfl (by rw [same])
      · by_cases here : handle = other
        · subst here
          have later : family.nextSerial <
              (family.perform (.register handle id factory lifetime metadata)).nextSerial := by
            rw [same]
            exact Nat.lt_succ_self _
          have changed : (family.perform (.register handle id factory lifetime metadata)).container
              handle = _ := same ▸ container_withRegistration_self ..
          refine .registered not_false rfl ⟨rfl, named⟩ ?_ later changed
          rfl
        · exact .untouched not_false rfl (by rw [same, container_withRegistration_of_ne here])
  | resolve other id => exact .resolved rfl
  | createScope other =>
      by_cases new : handle = family.size
      · exact .made rfl new (by rw [new]; exact container_createScope_self)
      · exact .untouched not_false rfl (by simp [perform, createScope, modify, new])
  | dispose other =>
      by_cases here : handle = other
      · subst here
        exact .disposed rfl rfl container_dispose_self
      · exact .untouched (Ne.symm here) rfl (container_dispose_of_ne here)

/-- Until a service is registered anew, its registration stands. -/
theorem get?_perform (there : handle < family.size) (stands : ¬ step.Registers handle key) :
    Table.get? ((family.perform step).container handle).registrations key =
      Table.get? (family.container handle).registrations key := by
  cases family.turn handle step with
  | untouched _ _ same | disposed _ _ same => rw [same]
  | @registered name registration _ _ registers _ _ same =>
      rw [same, Table.get?_insert, if_neg]
      rintro rfl
      exact stands registers
  | resolved same =>
      subst same
      exact congrArg (Table.get? · key) ((sameShape_resolveAt ..).registrations handle)
  | made _ new _ => exact absurd new (Nat.ne_of_lt there)

/-- A registration was there before or takes the next serial. -/
theorem registered_of_perform (there : handle < family.size)
    (found : Table.get? ((family.perform step).container handle).registrations key =
      some registration) :
    Table.get? (family.container handle).registrations key = some registration ∨
      registration.serial = family.nextSerial := by
  cases family.turn handle step with
  | untouched _ _ same | disposed _ _ same =>
      rw [same] at found
      exact .inl found
  | registered _ _ registers new _ same =>
      rw [same, Table.get?_insert] at found
      split at found
      · right
        rw [← Option.some.inj found, new]
      · exact .inl found
  | resolved same =>
      subst same
      rw [perform, resolve, (sameShape_resolveAt ..).registrations] at found
      exact .inl found
  | made _ new _ => exact absurd new (Nat.ne_of_lt there)

/-! ### Rested families -/

/-- Nothing is being created, and the next serial is new. -/
structure Rested (family : Family World Instance) : Prop where
  idle : ∀ handle, (family.container handle).creating = []
  numbered : ∀ handle key registration,
    Table.get? (family.container handle).registrations key = some registration →
      registration.serial < family.nextSerial

theorem rested_start (world : World) : (Family.start world : Family World Instance).Rested :=
  ⟨fun _ => rfl, fun _ _ _ found => by simp [Family.start, Container.empty, Table.get?] at found⟩

theorem Rested.free (rested : family.Rested) (handle : Handle) (key : Key) :
    ¬ family.IsCreating handle key := by
  rintro ⟨other, member, -⟩
  simp [rested.idle] at member

theorem Rested.transfer (rested : family.Rested) (shape : family.SameShape after) :
    after.Rested where
  idle handle := (shape.creating handle).trans (rested.idle handle)
  numbered handle key registration found := by
    rw [shape.registrations] at found
    rw [shape.nextSerial]
    exact rested.numbered handle key registration found

theorem Rested.perform (rested : family.Rested) (step : Step World Instance) :
    (family.perform step).Rested := by
  have later := nextSerial_le_perform family step
  constructor
  · intro handle
    cases family.turn handle step with
    | untouched _ _ same =>
        rw [same]
        exact rested.idle handle
    | registered _ _ _ _ _ same =>
        rw [same]
        exact rested.idle handle
    | resolved same =>
        subst same
        exact (rested.transfer (sameShape_resolveAt ..)).idle handle
    | made _ _ same | disposed _ _ same => rw [same]
  · intro handle key registration found
    cases family.turn handle step with
    | untouched _ _ same | made _ _ same | disposed _ _ same =>
        rw [same] at found
        exact Nat.lt_of_lt_of_le (rested.numbered _ key registration found) later
    | registered _ _ _ new next same =>
        rw [same, Table.get?_insert] at found
        split at found
        · rwa [← Option.some.inj found, new]
        · exact Nat.lt_of_lt_of_le (rested.numbered handle key registration found) later
    | resolved same =>
        subst same
        exact (rested.transfer (sameShape_resolveAt ..)).numbered handle key registration found

theorem Rested.performAll (rested : family.Rested) (steps : List (Step World Instance)) :
    (family.performAll steps).Rested := by
  induction steps generalizing family with
  | nil => exact rested
  | cons step rest induction => exact induction (rested.perform step)

/-! ### Services that stand -/

/-- Until a service is registered anew on a container that has it for itself, the container
has it for itself. -/
theorem Serves.perform (serves : family.Serves handle id key registration)
    (rested : family.Rested) (there : handle < family.size)
    (stands : ¬ step.Registers handle key) :
    (family.perform step).Serves handle id key registration := by
  have rooted : Handle.root < family.size := Nat.lt_of_le_of_lt (Nat.zero_le _) there
  refine ⟨serves.named, ?_, ?_⟩
  · rw [find?_of_key serves.named, get?_perform there stands]
    exact serves.get?
  · rintro ⟨single, inherited⟩
    obtain ⟨inScope, own, onRoot, same⟩ := (inherits_iff serves.named).mp inherited
    refine serves.own ⟨single, (inherits_iff serves.named).mpr ⟨inScope, own, ?_, same⟩⟩
    -- What is new on the root has a serial of its own, so nothing comes to be inherited.
    rcases registered_of_perform rooted onRoot with before | new
    · exact before
    · have old := rested.numbered handle key registration serves.get?
      omega

theorem Serves.performAll (serves : family.Serves handle id key registration)
    (rested : family.Rested) (there : handle < family.size)
    (stands : ∀ step ∈ steps, ¬ step.Registers handle key) :
    (family.performAll steps).Serves handle id key registration := by
  induction steps generalizing family with
  | nil => exact serves
  | cons step rest induction =>
      have onward := serves.perform rested there (stands step List.mem_cons_self)
      exact induction onward (rested.perform step)
        (Nat.lt_of_lt_of_le there (size_le_perform family step))
        fun other member => stands other (List.mem_cons_of_mem _ member)

/-! ### What is kept -/

theorem mem_rows_of_kept? {lifetime : Lifetime} {made : Instance}
    (held : family.kept? handle lifetime key = some made) : (key, made) ∈ family.rows handle := by
  cases lifetime with
  | transient => simp [kept?] at held
  | singleton => exact List.mem_append_left _ (Table.mem_of_get? held)
  | perScope =>
      rw [kept?] at held
      split at held
      · simp at held
      · exact List.mem_append_right _ (Table.mem_of_get? held)

theorem mem_rows_perform {row : Key × Instance} (member : row ∈ (family.perform step).rows handle) :
    row ∈ family.rows handle ∨
      ∃ serial, ⟨handle, row.1, serial, .ok row.2⟩ ∈ family.creationsOf step := by
  cases family.turn handle step with
  | untouched _ _ same | registered _ _ _ _ _ same =>
      rw [rows, same] at member
      exact .inl member
  | resolved same =>
      subst same
      exact (accounts_resolve family _ _).rows handle row member
  | made _ _ same | disposed _ _ same => simp [rows, same] at member

theorem mem_rows_performAll {row : Key × Instance}
    (member : row ∈ (family.performAll steps).rows handle) :
    row ∈ family.rows handle ∨
      ∃ serial, ⟨handle, row.1, serial, .ok row.2⟩ ∈ family.creationsAll steps := by
  induction steps generalizing family with
  | nil => exact .inl member
  | cons step rest induction =>
      rcases induction member with before | ⟨serial, later⟩
      · rcases mem_rows_perform before with start | ⟨serial, first⟩
        · exact .inl start
        · exact .inr ⟨serial, List.mem_append_left _ first⟩
      · exact .inr ⟨serial, List.mem_append_right _ later⟩

/-- What a reached family keeps was created on the way. -/
theorem exists_creation_of_kept? {world : World} {lifetime : Lifetime} {made : Instance}
    (held : ((Family.start world).performAll steps).kept? handle lifetime key = some made) :
    ∃ serial, ⟨handle, key, serial, .ok made⟩ ∈ (Family.start world).creationsAll steps := by
  rcases mem_rows_performAll (mem_rows_of_kept? held) with before | created
  · simp [rows, Family.start, Container.empty] at before
  · exact created

/-- What is kept of a service that stands, on a container that is not disposed of, was kept
before or is what was created since. -/
theorem kept?_perform (there : handle < family.size)
    (found : Table.get? (family.container handle).registrations key = some registration)
    (keeps : registration.lifetime.Keeps handle) (spared : ¬ step.Disposes handle) :
    ((family.perform step).kept? handle registration.lifetime key).toList =
      (family.kept? handle registration.lifetime key).toList ++
        completions handle key (family.creationsOf step) := by
  cases family.turn handle step with
  | untouched _ uncreated same | registered _ uncreated _ _ _ same =>
      rw [uncreated, completions_nil, List.append_nil]
      exact congrArg Option.toList (kept?_congr (by rw [same]) (by rw [same]))
  | resolved same =>
      subst same
      exact (accounts_resolve family _ _).held handle key registration found keeps
  | made _ new _ => exact absurd new (Nat.ne_of_lt there)
  | disposed _ disposes _ => exact absurd disposes spared

theorem kept?_performAll (there : handle < family.size)
    (found : Table.get? (family.container handle).registrations key = some registration)
    (keeps : registration.lifetime.Keeps handle)
    (stands : ∀ step ∈ steps, ¬ step.Registers handle key)
    (spared : ∀ step ∈ steps, ¬ step.Disposes handle) :
    ((family.performAll steps).kept? handle registration.lifetime key).toList =
      (family.kept? handle registration.lifetime key).toList ++
        completions handle key (family.creationsAll steps) := by
  induction steps generalizing family with
  | nil => exact (List.append_nil _).symm
  | cons step rest induction =>
      have first := kept?_perform there found keeps (spared step List.mem_cons_self)
      have foundLater := found
      rw [← get?_perform there (stands step List.mem_cons_self)] at foundLater
      rw [creationsAll, completions_append, ← List.append_assoc, ← first]
      exact induction (Nat.lt_of_lt_of_le there (size_le_perform family step)) foundLater
        (fun other member => stands other (List.mem_cons_of_mem _ member))
        fun other member => spared other (List.mem_cons_of_mem _ member)

/-- A service of which nothing is kept is not kept until it was created. -/
theorem kept?_performAll_eq_none (there : handle < family.size)
    (found : Table.get? (family.container handle).registrations key = some registration)
    (stands : ∀ step ∈ steps, ¬ step.Registers handle key)
    (missing : family.kept? handle registration.lifetime key = none)
    (uncreated : completions handle key (family.creationsAll steps) = []) :
    (family.performAll steps).kept? handle registration.lifetime key = none := by
  by_cases keeps : registration.lifetime.Keeps handle
  · induction steps generalizing family with
    | nil => exact missing
    | cons step rest induction =>
        rw [creationsAll, completions_append, List.append_eq_nil_iff] at uncreated
        have foundLater := found
        rw [← get?_perform there (stands step List.mem_cons_self)] at foundLater
        refine induction (Nat.lt_of_lt_of_le there (size_le_perform family step)) foundLater
          (fun other member => stands other (List.mem_cons_of_mem _ member)) ?_ uncreated.2
        by_cases disposes : step.Disposes handle
        · cases step with
          | dispose other =>
              obtain rfl : other = handle := disposes
              exact kept?_of_empty (by rw [perform, container_dispose_self])
                (by rw [perform, container_dispose_self])
          | register other id factory lifetime metadata | resolve other id | createScope other =>
              exact disposes.elim
        · have first := kept?_perform there found keeps disposes
          rw [missing, uncreated.1] at first
          exact Option.toList_eq_nil_iff.mp first
  · cases held : (family.performAll steps).kept? handle registration.lifetime key with
    | none => rfl
    | some made => exact absurd (keeps_of_kept? held) keeps

/-! ### Where what is kept comes from -/

/-- What is kept of a service that stands was kept before, or the registration has created
it; what was kept before is gone with the container's disposal. -/
theorem origin_perform {lifetime : Lifetime} {made : Instance}
    (there : handle < family.size)
    (found : Table.get? (family.container handle).registrations key = some registration)
    (held : (family.perform step).kept? handle lifetime key = some made) :
    family.kept? handle lifetime key = some made ∧ ¬ step.Disposes handle ∨
      registration.lifetime = lifetime ∧
        ⟨handle, key, registration.serial, .ok made⟩ ∈ family.creationsOf step := by
  cases family.turn handle step with
  | untouched spared _ same | registered spared _ _ _ _ same =>
      left
      rw [← held]
      exact ⟨(kept?_congr (by rw [same]) (by rw [same])).symm, spared⟩
  | resolved same =>
      subst same
      have origin := (accounts_resolve family _ _).origin found held
      exact origin.imp_left fun before => ⟨before, not_false⟩
  | made _ new _ => exact absurd new (Nat.ne_of_lt there)
  | disposed _ _ same =>
      rw [kept?_of_empty (by rw [same]) (by rw [same])] at held
      cases held

theorem origin_performAll {lifetime : Lifetime} {made : Instance} (there : handle < family.size)
    (found : Table.get? (family.container handle).registrations key = some registration)
    (stands : ∀ step ∈ steps, ¬ step.Registers handle key)
    (held : (family.performAll steps).kept? handle lifetime key = some made) :
    (family.kept? handle lifetime key = some made ∧ ∀ step ∈ steps, ¬ step.Disposes handle) ∨
      registration.lifetime = lifetime ∧
        ⟨handle, key, registration.serial, .ok made⟩ ∈ family.creationsAll steps := by
  induction steps generalizing family with
  | nil => exact .inl ⟨held, nofun⟩
  | cons step rest induction =>
      have foundLater := found
      rw [← get?_perform there (stands step List.mem_cons_self)] at foundLater
      rcases induction (Nat.lt_of_lt_of_le there (size_le_perform family step)) foundLater
        (fun other member => stands other (List.mem_cons_of_mem _ member)) held with
        ⟨between, spared⟩ | ⟨same, created⟩
      · rcases origin_perform there found between with ⟨before, sparedFirst⟩ | ⟨same, created⟩
        · exact .inl ⟨before, List.forall_mem_cons.mpr ⟨sparedFirst, spared⟩⟩
        · exact .inr ⟨same, List.mem_append_left _ created⟩
      · exact .inr ⟨same, List.mem_append_right _ created⟩

theorem stays_perform {lifetime : Lifetime} {made : Instance} (there : handle < family.size)
    (held : family.kept? handle lifetime key = some made) (spared : ¬ step.Disposes handle) :
    (family.perform step).kept? handle lifetime key = some made := by
  cases family.turn handle step with
  | untouched _ _ same | registered _ _ _ _ _ same =>
      rw [← held]
      exact kept?_congr (by rw [same]) (by rw [same])
  | resolved same =>
      subst same
      exact (accounts_resolve family _ _).stays held
  | made _ new _ => exact absurd new (Nat.ne_of_lt there)
  | disposed _ disposes _ => exact absurd disposes spared

theorem stays_performAll {lifetime : Lifetime} {made : Instance} (there : handle < family.size)
    (held : family.kept? handle lifetime key = some made)
    (spared : ∀ step ∈ steps, ¬ step.Disposes handle) :
    (family.performAll steps).kept? handle lifetime key = some made := by
  induction steps generalizing family with
  | nil => exact held
  | cons step rest induction =>
      exact induction (Nat.lt_of_lt_of_le there (size_le_perform family step))
        (stays_perform there held (spared step List.mem_cons_self))
        fun other member => spared other (List.mem_cons_of_mem _ member)

theorem completions_eq_nil_of_kept {made : Instance} (there : handle < family.size)
    (found : Table.get? (family.container handle).registrations key = some registration)
    (held : family.kept? handle registration.lifetime key = some made)
    (stands : ∀ step ∈ steps, ¬ step.Registers handle key)
    (spared : ∀ step ∈ steps, ¬ step.Disposes handle) :
    completions handle key (family.creationsAll steps) = [] := by
  have same := kept?_performAll there found (keeps_of_kept? held) stands spared
  rw [stays_performAll there held spared, held] at same
  simpa using same

/-! ### Serials of creations -/

theorem serial_lt_of_mem_creationsOf (rested : family.Rested) {creation : Creation Instance}
    (member : creation ∈ family.creationsOf step) : creation.serial < family.nextSerial := by
  cases step with
  | resolve other id =>
      obtain ⟨_, registration, serves, same, -⟩ := (accounts_resolve family other id).due _ member
      exact same ▸ rested.numbered creation.handle creation.key registration serves.get?
  | register other id factory lifetime metadata | createScope other | dispose other => cases member

theorem serial_lt_of_mem_creationsAll (rested : family.Rested) {creation : Creation Instance}
    (member : creation ∈ family.creationsAll steps) :
    creation.serial < (family.performAll steps).nextSerial := by
  induction steps generalizing family with
  | nil => cases member
  | cons step rest induction =>
      rcases List.mem_append.mp member with first | later
      · exact Nat.lt_of_lt_of_le (serial_lt_of_mem_creationsOf rested first)
          (nextSerial_le_performAll family (step :: rest))
      · exact induction (rested.perform step) later

/-! ### Registering anew -/

theorem perform_register_of_key {factory : Factory World Instance} {lifetime : Lifetime}
    {metadata : Fields} (named : id.key = some key) :
    family.perform (.register handle id factory lifetime metadata) =
      family.withRegistration handle key ⟨factory, lifetime, metadata, family.nextSerial⟩ := by
  simp [perform, register, keyOf, named, bind, Except.bind, pure, Except.pure, withRegistration]

theorem Rested.serves_registered (rested : family.Rested) (named : id.key = some key)
    (registration : Registration World Instance) (new : registration.serial = family.nextSerial) :
    (family.withRegistration handle key registration).Serves handle id key registration := by
  refine ⟨named, ?_, ?_⟩
  · rw [find?_of_key named, get?_withRegistration, if_pos ⟨rfl, rfl⟩]
  · rintro ⟨-, inherited⟩
    obtain ⟨inScope, own, onRoot, same⟩ := (inherits_iff named).mp inherited
    rw [get?_withRegistration, if_neg fun both => inScope both.1.symm] at onRoot
    have old := rested.numbered Handle.root key own onRoot
    omega

/-- A family on which a service was just registered: nothing that was kept is lost. -/
structure Renewed (family : Family World Instance) (handle : Handle) (id : Identifier) (key : Key)
    (registration : Registration World Instance) (after : Family World Instance) : Prop where
  rested : after.Rested
  there : handle < after.size
  serves : after.Serves handle id key registration
  kept : ∀ lifetime, after.kept? handle lifetime key = family.kept? handle lifetime key

theorem Rested.renewed {factory : Factory World Instance} {lifetime : Lifetime}
    {metadata : Fields} (rested : family.Rested) (there : handle < family.size)
    (named : id.key = some key)
    (registered : family.perform (.register handle id factory lifetime metadata) = after) :
    family.Renewed handle id key ⟨factory, lifetime, metadata, family.nextSerial⟩ after := by
  have restedAfter := rested.perform (.register handle id factory lifetime metadata)
  rw [perform_register_of_key named] at registered restedAfter
  subst registered
  exact ⟨restedAfter, there, rested.serves_registered named _ rfl, fun _ => kept?_withRegistration ..⟩

/-! ### Instances that are told apart -/

/-- If factories build fresh values, no instance is kept on two containers. -/
theorem handle_eq_of_kept? {clock : Clock World Instance} {world : World} {other : Handle}
    {name : Key} {lifetime kind : Lifetime} {made : Instance}
    (fresh : ∀ step ∈ steps, step.Fresh clock)
    (held : ((Family.start world).performAll steps).kept? handle lifetime key = some made)
    (heldToo : ((Family.start world).performAll steps).kept? other kind name = some made) :
    handle = other := by
  obtain ⟨events, recorded⟩ := (recorded_start clock world).performAll fresh
  exact recorded.once handle other key name made (recorded.kept handle _ (mem_rows_of_kept? held))
    (recorded.kept other _ (mem_rows_of_kept? heldToo))

end Family

end PageComposer.Service
