import PageComposer.Service.Family

/-!
# What operations on families do

For each operation of a family, what it leaves as it is and what becomes of the rest: the
registrations, what is kept, and what is being created, on the container that it works on
and on the others.
-/

namespace PageComposer.Service

theorem Table.mem_of_get? {Entry : Type} {table : Table Entry} {key : Key} {entry : Entry}
    (found : table.get? key = some entry) : (key, entry) ∈ table := by
  induction table with
  | nil => simp [Table.get?] at found
  | cons row rest induction =>
      obtain ⟨name, old⟩ := row
      rw [Table.get?] at found
      split at found
      · rename_i same
        obtain rfl := Option.some.inj found
        rw [same]
        exact List.mem_cons_self
      · exact List.mem_cons_of_mem _ (induction found)

theorem Table.get?_append {Entry : Type} (first second : Table Entry) (key : Key) :
    Table.get? (first ++ second) key = (first.get? key).or (second.get? key) := by
  induction first with
  | nil => rfl
  | cons row rest induction =>
      obtain ⟨name, old⟩ := row
      rw [List.cons_append, Table.get?, Table.get?]
      split
      · rfl
      · exact induction

theorem Table.get?_eq_none_of_not_mem {Entry : Type} {table : Table Entry} {key : Key}
    (absent : ∀ row ∈ table, row.1 ≠ key) : table.get? key = none := by
  cases found : table.get? key with
  | none => rfl
  | some entry => exact absurd rfl (absent _ (mem_of_get? found))

/-- A new key goes to the end. -/
theorem Table.insert_of_get?_eq_none {Entry : Type} {table : Table Entry} {key : Key}
    (absent : table.get? key = none) (entry : Entry) :
    table.insert key entry = table ++ [(key, entry)] := by
  induction table with
  | nil => rfl
  | cons row rest induction =>
      obtain ⟨name, old⟩ := row
      rw [Table.get?] at absent
      split at absent
      · simp at absent
      · rename_i other
        rw [Table.insert, if_neg other, induction absent]
        rfl

/-- The container that an instance belongs to when its service is resolved on a container. -/
def Lifetime.home (lifetime : Lifetime) (handle : Handle) : Handle :=
  match lifetime with
  | .singleton => Handle.root
  | .transient | .perScope => handle

/-- A container keeps the instances of a service. -/
def Lifetime.Keeps (lifetime : Lifetime) (handle : Handle) : Prop :=
  match lifetime with
  | .transient => False
  | .singleton => True
  | .perScope => handle ≠ Handle.root

namespace Family

variable {World Instance : Type} {family after : Family World Instance} {handle : Handle}
  {id : Identifier} {key : Key} {registration : Registration World Instance}
  {lifetime : Lifetime}

@[simp] theorem container_modify_self (family : Family World Instance) (handle : Handle)
    (change : Container World Instance → Container World Instance) :
    (family.modify handle change).container handle = change (family.container handle) := by
  simp [modify]

theorem container_modify_of_ne (family : Family World Instance) {handle other : Handle}
    (change : Container World Instance → Container World Instance) (apart : other ≠ handle) :
    (family.modify handle change).container other = family.container other := by
  simp [modify, apart]

/-! ### What is kept -/

theorem kept?_congr {after : Family World Instance}
    (singletons : (after.container handle).singletons = (family.container handle).singletons)
    (perScope : (after.container handle).perScope = (family.container handle).perScope) :
    after.kept? handle lifetime key = family.kept? handle lifetime key := by
  cases lifetime <;> simp [kept?, singletons, perScope]

theorem kept?_of_empty (singletons : (family.container handle).singletons = [])
    (perScope : (family.container handle).perScope = []) :
    family.kept? handle lifetime key = none := by
  cases lifetime <;> simp [kept?, singletons, perScope, Table.get?]

theorem keeps_of_kept? {made : Instance} (held : family.kept? handle lifetime key = some made) :
    lifetime.Keeps handle := by
  cases lifetime with
  | transient => simp [kept?] at held
  | singleton => trivial
  | perScope =>
      rintro rfl
      simp [kept?] at held

theorem keep_of_not_keeps (made : Instance) (passing : ¬ lifetime.Keeps handle) :
    family.keep handle lifetime key made = family := by
  cases lifetime with
  | transient => rfl
  | singleton => exact absurd trivial passing
  | perScope =>
      have atRoot : handle = Handle.root := Classical.not_not.mp passing
      simp [keep, atRoot]

theorem container_keep_of_ne (family : Family World Instance) {handle other : Handle}
    (lifetime : Lifetime) (key : Key) (made : Instance) (apart : other ≠ handle) :
    (family.keep handle lifetime key made).container other = family.container other := by
  cases lifetime with
  | transient => rfl
  | singleton => simp [keep, container_modify_of_ne family _ apart]
  | perScope =>
      simp only [keep]
      split
      · rfl
      · exact container_modify_of_ne family _ apart

/-- An instance is kept where it belongs and nowhere else. -/
theorem kept?_keep (made : Instance) (keeps : lifetime.Keeps handle) (other : Handle)
    (next : Lifetime) (name : Key) :
    (family.keep handle lifetime key made).kept? other next name =
      if other = handle ∧ next = lifetime ∧ name = key then some made
      else family.kept? other next name := by
  by_cases elsewhere : other = handle
  · subst elsewhere
    cases lifetime with
    | transient => exact absurd keeps id
    | singleton =>
        cases next <;> simp [keep, kept?, Table.get?_insert, eq_comm (a := name)]
    | perScope =>
        have inScope : other ≠ Handle.root := keeps
        cases next <;> simp [keep, kept?, inScope, Table.get?_insert, eq_comm (a := name)]
  · have same := container_keep_of_ne family lifetime key made elsewhere
    rw [if_neg (fun here => elsewhere here.1)]
    exact kept?_congr (by rw [same]) (by rw [same])

theorem world_keep (family : Family World Instance) (handle : Handle) (lifetime : Lifetime)
    (key : Key) (made : Instance) :
    (family.keep handle lifetime key made).world = family.world := by
  cases lifetime with
  | transient | singleton => rfl
  | perScope =>
      unfold Family.keep
      dsimp only
      split <;> rfl

/-! ### What is being created -/

def IsCreating (family : Family World Instance) (handle : Handle) (key : Key) : Prop :=
  ∃ other ∈ (family.container handle).creating, other.key = some key

theorem any_creating_iff {family : Family World Instance} {handle : Handle} {key : Key} :
    ((family.container handle).creating.any fun other => other.key = some key) = true ↔
      family.IsCreating handle key := by
  simp [IsCreating]

theorem isCreating_enter {other : Handle} {name : Key}
    (inside : (family.enter handle id).IsCreating other name) :
    family.IsCreating other name ∨ (other = handle ∧ id.key = some name) := by
  obtain ⟨running, member, named⟩ := inside
  by_cases same : other = handle
  · subst same
    simp only [Family.enter, container_modify_self, List.mem_append, List.mem_singleton] at member
    rcases member with before | rfl
    · exact .inl ⟨running, before, named⟩
    · exact .inr ⟨rfl, named⟩
  · rw [Family.enter, container_modify_of_ne family _ same] at member
    exact .inl ⟨running, member, named⟩

theorem IsCreating.enter {other : Handle} {name : Key} (creating : family.IsCreating other name)
    (handle : Handle) (id : Identifier) : (family.enter handle id).IsCreating other name := by
  obtain ⟨running, member, named⟩ := creating
  refine ⟨running, ?_, named⟩
  by_cases same : other = handle
  · subst same
    simp only [Family.enter, container_modify_self, List.mem_append]
    exact .inl member
  · rwa [Family.enter, container_modify_of_ne family _ same]

theorem isCreating_leave {other : Handle} {name : Key}
    (inside : (family.leave handle).IsCreating other name) : family.IsCreating other name := by
  obtain ⟨running, member, named⟩ := inside
  by_cases same : other = handle
  · subst same
    simp only [Family.leave, container_modify_self] at member
    exact ⟨running, List.dropLast_subset _ member, named⟩
  · rw [Family.leave, container_modify_of_ne family _ same] at member
    exact ⟨running, member, named⟩

theorem kept?_enter (id : Identifier) (other : Handle) :
    (family.enter handle id).kept? other lifetime key = family.kept? other lifetime key := by
  apply kept?_congr <;> by_cases same : other = handle <;> simp [enter, modify, same]

theorem kept?_leave (other : Handle) :
    (family.leave handle).kept? other lifetime key = family.kept? other lifetime key := by
  apply kept?_congr <;> by_cases same : other = handle <;> simp [leave, modify, same]

theorem registrations_enter (family : Family World Instance) (handle other : Handle)
    (id : Identifier) : ((family.enter handle id).container other).registrations =
      (family.container other).registrations := by
  by_cases same : other = handle <;> simp [enter, modify, same]

theorem registrations_leave (family : Family World Instance) (handle other : Handle) :
    ((family.leave handle).container other).registrations =
      (family.container other).registrations := by
  by_cases same : other = handle <;> simp [leave, modify, same]

/-! ### What stays -/

theorem find?_congr (registrations : ∀ handle,
      (after.container handle).registrations = (family.container handle).registrations)
    (handle : Handle) (id : Identifier) :
    (after.container handle).find? id = (family.container handle).find? id := by
  rw [Container.find?, Container.find?, registrations]

theorem find?_of_key (named : id.key = some key) (container : Container World Instance) :
    container.find? id = Table.get? container.registrations key := by
  rw [Container.find?, named, Option.bind_some]

/-- A registration is inherited by a scope if the root has one with its serial. -/
theorem inherits_iff (named : id.key = some key) :
    family.inherits handle id registration = true ↔ handle ≠ Handle.root ∧
      ∃ own, Table.get? (family.container Handle.root).registrations key = some own ∧
        own.serial = registration.serial := by
  rw [inherits, find?_of_key named, Bool.and_eq_true, bne_iff_ne, beq_iff_eq,
    Option.map_eq_some_iff]

theorem inherits_congr (registrations : ∀ handle,
      (after.container handle).registrations = (family.container handle).registrations)
    (handle : Handle) (id : Identifier) (registration : Registration World Instance) :
    after.inherits handle id registration = family.inherits handle id registration := by
  rw [inherits, inherits, find?_congr registrations]

/-- Two families differ in what is kept and in the world alone. -/
structure SameShape (family after : Family World Instance) : Prop where
  size : after.size = family.size
  nextSerial : after.nextSerial = family.nextSerial
  registrations : ∀ handle,
    (after.container handle).registrations = (family.container handle).registrations
  creating : ∀ handle, (after.container handle).creating = (family.container handle).creating

theorem SameShape.refl (family : Family World Instance) : family.SameShape family :=
  ⟨rfl, rfl, fun _ => rfl, fun _ => rfl⟩

theorem SameShape.trans {first second third : Family World Instance}
    (left : first.SameShape second) (right : second.SameShape third) : first.SameShape third where
  size := right.size.trans left.size
  nextSerial := right.nextSerial.trans left.nextSerial
  registrations handle := (right.registrations handle).trans (left.registrations handle)
  creating handle := (right.creating handle).trans (left.creating handle)

theorem SameShape.keep (family : Family World Instance) (handle : Handle) (lifetime : Lifetime)
    (key : Key) (made : Instance) : family.SameShape (family.keep handle lifetime key made) := by
  have shape (change : Container World Instance → Container World Instance)
      (registrations : ∀ container, (change container).registrations = container.registrations)
      (creating : ∀ container, (change container).creating = container.creating) :
      family.SameShape (family.modify handle change) := by
    refine ⟨rfl, rfl, fun other => ?_, fun other => ?_⟩
    · by_cases same : other = handle
      · rw [same, container_modify_self, registrations]
      · rw [container_modify_of_ne family change same]
    · by_cases same : other = handle
      · rw [same, container_modify_self, creating]
      · rw [container_modify_of_ne family change same]
  cases lifetime with
  | transient => exact .refl family
  | singleton =>
      unfold Family.keep
      exact shape _ (fun _ => rfl) fun _ => rfl
  | perScope =>
      unfold Family.keep
      dsimp only
      split
      · exact .refl family
      · exact shape _ (fun _ => rfl) fun _ => rfl

/-- A creation that has come to its end leaves no trace among those that go on. -/
theorem SameShape.leave {family between : Family World Instance} {handle : Handle}
    {id : Identifier} (inside : (family.enter handle id).SameShape between) :
    family.SameShape (between.leave handle) where
  size := inside.size
  nextSerial := inside.nextSerial
  registrations other := by
    have entered := inside.registrations other
    by_cases same : other = handle
    · subst same
      simpa [Family.leave, enter] using entered
    · rw [enter, container_modify_of_ne family _ same] at entered
      rwa [Family.leave, container_modify_of_ne between _ same]
  creating other := by
    have entered := inside.creating other
    by_cases same : other = handle
    · subst same
      simp only [enter, container_modify_self] at entered
      simp [Family.leave, entered]
    · rw [enter, container_modify_of_ne family _ same] at entered
      rwa [Family.leave, container_modify_of_ne between _ same]

/-! ### Registrations, scopes and disposal -/

def lifetimeOf (family : Family World Instance) (key : Key) : Option Lifetime :=
  (Table.get? (family.container Handle.root).registrations key).map Registration.lifetime

theorem lifetimeOf_congr (registrations : (after.container Handle.root).registrations =
    (family.container Handle.root).registrations) : after.lifetimeOf = family.lifetimeOf := by
  funext key
  rw [lifetimeOf, lifetimeOf, registrations]

def withRegistration (family : Family World Instance) (handle : Handle) (key : Key)
    (registration : Registration World Instance) : Family World Instance :=
  { family.modify handle fun container =>
      { container with
        registrations := Table.insert container.registrations key registration } with
    nextSerial := family.nextSerial + 1 }

theorem register_ok {factory : Factory World Instance} {metadata : Fields}
    (registered : family.register handle id factory lifetime metadata = .ok after) :
    ∃ key, id.key = some key ∧ after =
      family.withRegistration handle key ⟨factory, lifetime, metadata, family.nextSerial⟩ := by
  cases sameKey : id.key with
  | none => simp [Family.register, keyOf, sameKey, bind, Except.bind] at registered
  | some key =>
      simp only [Family.register, keyOf, sameKey, bind, Except.bind, pure, Except.pure,
        Except.ok.injEq] at registered
      exact ⟨key, rfl, registered.symm⟩

theorem kept?_withRegistration (other : Handle) (next : Lifetime) (name : Key) :
    (family.withRegistration handle key registration).kept? other next name =
      family.kept? other next name := by
  apply kept?_congr <;> by_cases same : other = handle <;> simp [withRegistration, modify, same]

theorem isCreating_withRegistration {other : Handle} {name : Key} :
    (family.withRegistration handle key registration).IsCreating other name ↔
      family.IsCreating other name := by
  by_cases same : other = handle <;> simp [IsCreating, withRegistration, modify, same]

theorem container_withRegistration_of_ne {other : Handle} (apart : other ≠ handle) :
    (family.withRegistration handle key registration).container other =
      family.container other := by
  simp [withRegistration, modify, apart]

theorem lifetimeOf_withRegistration (name : Key) :
    (family.withRegistration Handle.root key registration).lifetimeOf name =
      if key = name then some registration.lifetime else family.lifetimeOf name := by
  simp only [withRegistration, lifetimeOf, modify, if_true, Table.get?_insert]
  split <;> rfl

theorem container_createScope_of_lt {other : Handle} (before : other < family.size) :
    (family.createScope handle).2.container other = family.container other := by
  simp [createScope, modify, Nat.ne_of_lt before]

theorem container_createScope_self :
    (family.createScope handle).2.container family.size =
      ⟨(family.container handle).registrations, [], [], []⟩ := by
  simp [createScope, modify]

theorem container_dispose_of_ne {other : Handle} (elsewhere : other ≠ handle) :
    (family.dispose handle).container other = family.container other := by
  simp [dispose, modify, elsewhere]

theorem container_dispose_self :
    (family.dispose handle).container handle =
      ⟨(family.container handle).registrations, [], [], []⟩ := by
  simp [dispose, modify]

end Family

/-! ### Steps -/

/-- What is asked of a family from outside. -/
inductive Step (World Instance : Type) where
  | register (handle : Handle) (id : Identifier) (factory : Factory World Instance)
      (lifetime : Lifetime) (metadata : Fields)
  | resolve (handle : Handle) (id : Identifier)
  | createScope (handle : Handle)
  | dispose (handle : Handle)

/-- The container that a step is performed on. -/
def Step.handle {World Instance : Type} : Step World Instance → Handle
  | register handle .. | resolve handle _ | createScope handle | dispose handle => handle

namespace Family

variable {World Instance : Type}

/-- The family after a step; a step that fails before it begins leaves it as it is. -/
def perform (family : Family World Instance) : Step World Instance → Family World Instance
  | .register handle id factory lifetime metadata =>
      match family.register handle id factory lifetime metadata with
      | .ok after => after
      | .error _ => family
  | .resolve handle id => (family.resolve handle id).2
  | .createScope handle => (family.createScope handle).2
  | .dispose handle => family.dispose handle

def performAll (family : Family World Instance) (steps : List (Step World Instance)) :
    Family World Instance :=
  steps.foldl perform family

theorem perform_register (family : Family World Instance) (handle : Handle) (id : Identifier)
    (factory : Factory World Instance) (lifetime : Lifetime) (metadata : Fields) :
    family.perform (.register handle id factory lifetime metadata) = family ∨
      ∃ key, id.key = some key ∧
        family.perform (.register handle id factory lifetime metadata) =
          family.withRegistration handle key ⟨factory, lifetime, metadata, family.nextSerial⟩ := by
  rcases came : family.register handle id factory lifetime metadata with fault | after
  · left
    simp only [perform, came]
  · obtain ⟨key, named, rfl⟩ := register_ok came
    right
    exact ⟨key, named, by simp only [perform, came]⟩

end Family

end PageComposer.Service
