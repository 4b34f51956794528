import PageComposer.Proofs.Service.Runs

/-!
# Enough depth

`Family.resolve` follows dependencies to a depth that it computes from the registrations.
`resolve_eq` says that this is no limit: every depth above `Family.bound` gives the same
outcome and the same family, since each creation in progress takes one more registered
service out of those that can still be entered.
-/

namespace PageComposer.Service.Family

variable {World Instance : Type} {family after : Family World Instance} {handle : Handle}
  {id : Identifier} {key : Key} {registration : Registration World Instance}

theorem sameShape_resolveAt (depth : Nat) (handle : Handle) (id : Identifier)
    (family : Family World Instance) : family.SameShape (resolveAt depth handle id family).2 := by
  obtain ⟨trace, runs⟩ := runs_resolveAt depth handle id family
  exact runs.sameShape

theorem SameShape.enter (shape : family.SameShape after) (handle : Handle) (id : Identifier) :
    (family.enter handle id).SameShape (after.enter handle id) where
  size := shape.size
  nextSerial := shape.nextSerial
  registrations other := by
    rw [registrations_enter, registrations_enter, shape.registrations]
  creating other := by
    by_cases same : other = handle
    · subst same
      simp [Family.enter, shape.creating]
    · rw [Family.enter, Family.enter, container_modify_of_ne after _ same,
        container_modify_of_ne family _ same, shape.creating]

/-- How many registrations of a container are of services that are not being created. -/
def room (family : Family World Instance) (handle : Handle) : Nat :=
  ((family.container handle).registrations.filter fun row =>
    !(family.container handle).creating.any fun other => other.key = some row.1).length

/-- A depth that no resolution on a container exceeds: one creation for each service with
room, first on the container and then on the root. -/
def bound (family : Family World Instance) (handle : Handle) : Nat :=
  if handle = Handle.root then family.room Handle.root + 1
  else family.room handle + family.room Handle.root + 2

theorem room_congr (shape : family.SameShape after) : after.room = family.room := by
  funext handle
  rw [room, room, shape.registrations, shape.creating]

theorem bound_congr (shape : family.SameShape after) : after.bound = family.bound := by
  funext handle
  rw [bound, bound, room_congr shape]

theorem bound_le_depth (family : Family World Instance) (handle : Handle) :
    family.bound handle ≤ family.depth handle := by
  have own : family.room handle ≤ (family.container handle).registrations.length :=
    List.length_filter_le ..
  have root : family.room Handle.root ≤ (family.container Handle.root).registrations.length :=
    List.length_filter_le ..
  rw [bound, depth]
  split <;> omega

/-- The rows that have room while a service is being created are those that had room
before, less the row of the service. -/
theorem room_enter (family : Family World Instance) (handle : Handle) (id : Identifier) :
    (family.enter handle id).room handle =
      (((family.container handle).registrations.filter fun row =>
        !(family.container handle).creating.any fun other => other.key = some row.1).filter
          fun row => !decide (id.key = some row.1)).length := by
  rw [room, List.filter_filter, registrations_enter]
  congr 2
  funext row
  simp [Family.enter, Bool.and_comm]

theorem room_enter_le (family : Family World Instance) (handle other : Handle)
    (id : Identifier) : (family.enter handle id).room other ≤ family.room other := by
  by_cases same : other = handle
  · subst same
    rw [room_enter, room]
    exact List.length_filter_le ..
  · have apart := container_modify_of_ne family (fun container =>
      { container with creating := container.creating ++ [id] }) same
    have same : (family.enter handle id).room other = family.room other := by
      rw [room, room, Family.enter, apart]
    exact Nat.le_of_eq same

theorem room_enter_lt (serves : family.Serves handle id key registration)
    (free : ¬ family.IsCreating handle key) :
    (family.enter handle id).room handle < family.room handle := by
  have found := serves.get?
  rw [← any_creating_iff, Bool.not_eq_true] at free
  have member : (key, registration) ∈ (family.container handle).registrations.filter fun row =>
      !(family.container handle).creating.any fun other => other.key = some row.1 := by
    refine List.mem_filter.mpr ⟨Table.mem_of_get? found, ?_⟩
    simp only [free, Bool.not_false]
  rw [room_enter, room]
  refine List.length_filter_lt_length_iff_exists.mpr ⟨_, member, ?_⟩
  simp [serves.named]

theorem bound_enter_lt (serves : family.Serves handle id key registration)
    (free : ¬ family.IsCreating handle key) :
    (family.enter handle id).bound handle < family.bound handle := by
  have less := room_enter_lt serves free
  have root := room_enter_le family handle Handle.root id
  rw [bound, bound]
  split
  · rename_i atRoot
    rw [atRoot] at less root ⊢
    omega
  · omega

theorem ne_root_of_inherits (inherited : family.inherits handle id registration = true) :
    handle ≠ Handle.root := by
  rintro rfl
  simp [inherits] at inherited

/-! ### More depth changes nothing -/

/-- Two ways to resolve that agree on all families of one shape run a recipe alike. -/
theorem cook_congr {first second :
      Identifier → Family World Instance → Outcome Instance × Family World Instance}
    (agree : ∀ id between, family.SameShape between → first id between = second id between)
    (stays : ∀ id between, family.SameShape between → family.SameShape (second id between).2)
    (recipe : Recipe World Instance) (between : Family World Instance)
    (shape : family.SameShape between) :
    cook handle first recipe between = cook handle second recipe between := by
  induction recipe generalizing between with
  | give made | fail fault => rfl
  | read rest induction => exact induction between.world between shape
  | write world rest induction =>
      apply induction
      exact ⟨shape.size, shape.nextSerial, shape.registrations, shape.creating⟩
  | known id rest induction => exact induction _ between shape
  | need id rest induction =>
      rw [cook, cook, agree id between shape]
      exact induction _ _ (stays id between shape)

theorem resolveAt_succ (depth : Nat) (handle : Handle) (id : Identifier)
    (family : Family World Instance) (enough : family.bound handle ≤ depth) :
    resolveAt (depth + 1) handle id family = resolveAt depth handle id family := by
  induction depth generalizing handle id family with
  | zero =>
      have positive : 0 < family.bound handle := by
        rw [bound]
        split <;> omega
      omega
  | succ depth induction =>
      cases family.way handle id with
      | unkeyed keyless => rw [resolveAt_of_unkeyed keyless, resolveAt_of_unkeyed keyless]
      | unknown named absent =>
          rw [resolveAt_of_unknown named absent, resolveAt_of_unknown named absent]
      | inherited named found single inherited =>
          rw [resolveAt_of_inherits named found single inherited,
            resolveAt_of_inherits named found single inherited]
          apply induction
          rw [bound, if_neg (ne_root_of_inherits inherited)] at enough
          rw [bound, if_pos rfl]
          omega
      | creating serves creating =>
          rw [resolveAt_of_creating serves creating, resolveAt_of_creating serves creating]
      | free serves free =>
          have less := bound_enter_lt serves free
          have agree (other : Identifier) (between : Family World Instance)
              (shape : (family.enter handle id).SameShape between) :
              resolveAt (depth + 1) handle other between = resolveAt depth handle other between := by
            apply induction
            rw [bound_congr shape]
            omega
          have stays (other : Identifier) (between : Family World Instance)
              (shape : (family.enter handle id).SameShape between) :
              (family.enter handle id).SameShape (resolveAt depth handle other between).2 :=
            shape.trans (sameShape_resolveAt depth handle other between)
          rw [resolveAt_of_free serves free, resolveAt_of_free serves free,
            cook_congr agree stays _ _ (.refl _)]

theorem resolveAt_of_le {depth : Nat} (enough : family.bound handle ≤ depth) (more : Nat) :
    resolveAt (depth + more) handle id family = resolveAt depth handle id family := by
  induction more with
  | zero => rfl
  | succ more induction =>
      rw [← induction]
      exact resolveAt_succ (depth + more) handle id family (by omega)

/-- To resolve a service is to resolve it to any depth that is enough. -/
theorem resolve_eq {depth : Nat} (enough : family.bound handle ≤ depth) :
    family.resolve handle id = resolveAt depth handle id family := by
  rw [resolve]
  rcases Nat.le_total depth (family.depth handle) with less | less
  · obtain ⟨more, same⟩ := Nat.exists_eq_add_of_le less
    rw [same, resolveAt_of_le enough]
  · obtain ⟨more, rfl⟩ := Nat.exists_eq_add_of_le less
    rw [resolveAt_of_le (bound_le_depth family handle)]

/-- A scope leaves the singletons that it inherits to the root. -/
theorem resolve_of_inherits
    (found : (family.container handle).find? id = some registration)
    (single : registration.lifetime = .singleton)
    (inherited : family.inherits handle id registration = true) :
    family.resolve handle id = family.resolve Handle.root id := by
  obtain ⟨key, named, -⟩ := Option.bind_eq_some_iff.mp found
  have enough : family.bound handle = family.room handle + family.room Handle.root + 1 + 1 := by
    rw [bound, if_neg (ne_root_of_inherits inherited)]
  have below : family.bound Handle.root ≤ family.room handle + family.room Handle.root + 1 := by
    rw [bound, if_pos rfl]
    omega
  rw [resolve_eq (Nat.le_of_eq enough), resolve_eq below,
    resolveAt_of_inherits named found single inherited]

end PageComposer.Service.Family
