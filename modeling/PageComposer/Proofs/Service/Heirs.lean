import PageComposer.Proofs.Service.Standing

/-!
# Singletons of scopes

A singleton that is registered on a scope is inherited by the scopes that are made from it,
directly or through others: its heirs.  Only what is inherited from the root is left to the
root; `Family.heirs_apart` says that each heir creates and keeps an instance of its own, once,
and that the instances of two heirs differ.
-/

namespace PageComposer.Service.Family

variable {World Instance : Type} {family after final : Family World Instance}
  {scope heir handle : Handle} {id : Identifier} {key : Key}
  {registration : Registration World Instance} {step : Step World Instance}
  {earlier later : List (Step World Instance)} {log : List (Creation Instance)}
  {heirs : List Handle} {left : List Instance}

/-- The heirs of a registration after a step: a scope that is made from an heir is one more,
and a container on which the service is registered anew is none any longer. -/
def inherit (family : Family World Instance) (key : Key) (heirs : List Handle) :
    Step World Instance → List Handle
  | .createScope handle => if handle ∈ heirs then heirs ++ [family.size] else heirs
  | .register handle id .. => if id.key = some key then heirs.filter (· ≠ handle) else heirs
  | .resolve .. | .dispose _ => heirs

def inheritAll (key : Key) : Family World Instance → List Handle → List (Step World Instance) →
    List Handle
  | _, heirs, [] => heirs
  | family, heirs, step :: rest =>
      inheritAll key (family.perform step) (family.inherit key heirs step) rest

/-- Every step is performed on a container that is there. -/
def Grounded : Family World Instance → List (Step World Instance) → Prop
  | _, [] => True
  | family, step :: rest => step.handle < family.size ∧ Grounded (family.perform step) rest

theorem mem_inherit (member : heir ∈ family.inherit key heirs step) :
    heir ∈ heirs ∧ ¬ step.Registers heir key ∨
      ∃ handle ∈ heirs, step = .createScope handle ∧ heir = family.size := by
  cases step with
  | register handle id factory lifetime metadata =>
      rw [inherit] at member
      split at member
      · obtain ⟨before, apart⟩ := List.mem_filter.mp member
        refine .inl ⟨before, ?_⟩
        rintro ⟨rfl, -⟩
        simp at apart
      · rename_i other
        exact .inl ⟨member, fun registers => other registers.2⟩
  | createScope handle =>
      rw [inherit] at member
      split at member
      · rename_i inherits
        rcases List.mem_append.mp member with before | new
        · exact .inl ⟨before, not_false⟩
        · exact .inr ⟨handle, inherits, rfl, List.mem_singleton.mp new⟩
      · exact .inl ⟨member, not_false⟩
  | resolve handle id | dispose handle => exact .inl ⟨member, not_false⟩

theorem Serves.createScope (serves : family.Serves handle id key registration)
    (inScope : handle ≠ Handle.root) (rooted : 0 < family.size) :
    (family.createScope handle).2.Serves family.size id key registration := by
  have root : (family.createScope handle).2.container Handle.root = family.container Handle.root :=
    container_createScope_of_lt rooted
  refine ⟨serves.named, ?_, ?_⟩
  · rw [Container.find?, container_createScope_self]
    exact serves.found
  · rintro ⟨single, inherited⟩
    obtain ⟨-, onRoot⟩ := (inherits_iff serves.named).mp inherited
    rw [root] at onRoot
    exact serves.own ⟨single, (inherits_iff serves.named).mpr ⟨inScope, onRoot⟩⟩

/-- What heirs have in common: each has the registration for itself and keeps what was
created on it, and on the scope what was left over there. -/
structure Inheriting (scope : Handle) (id : Identifier) (key : Key)
    (registration : Registration World Instance) (left : List Instance)
    (log : List (Creation Instance)) (heirs : List Handle) (family : Family World Instance) :
    Prop where
  rested : family.Rested
  rooted : scope < family.size
  there : ∀ heir ∈ heirs, heir < family.size
  inScope : ∀ heir ∈ heirs, heir ≠ Handle.root
  serves : ∀ heir ∈ heirs, family.Serves heir id key registration
  held : ∀ heir ∈ heirs, (family.kept? heir .singleton key).toList =
    (if heir = scope then left else []) ++ completions heir key log
  past : ∀ creation ∈ log, creation.handle < family.size

theorem Inheriting.perform
    (inheriting : Inheriting scope id key registration left log heirs family)
    (step : Step World Instance) (single : registration.lifetime = .singleton)
    (grounded : step.handle < family.size) (spared : ∀ handle, ¬ step.Disposes handle) :
    Inheriting scope id key registration left (log ++ family.creationsOf step)
      (family.inherit key heirs step) (family.perform step) := by
  have grows := size_le_perform family step
  have rooted : 0 < family.size := Nat.lt_of_le_of_lt (Nat.zero_le _) inheriting.rooted
  refine ⟨inheriting.rested.perform step, Nat.lt_of_lt_of_le inheriting.rooted grows, ?_, ?_, ?_,
    ?_, ?_⟩
  · intro heir member
    rcases mem_inherit member with ⟨before, -⟩ | ⟨handle, -, rfl, rfl⟩
    · exact Nat.lt_of_lt_of_le (inheriting.there heir before) grows
    · exact Nat.lt_succ_self _
  · intro heir member
    rcases mem_inherit member with ⟨before, -⟩ | ⟨handle, -, -, rfl⟩
    · exact inheriting.inScope heir before
    · exact Nat.ne_of_gt rooted
  · intro heir member
    rcases mem_inherit member with ⟨before, stands⟩ | ⟨handle, inherits, rfl, rfl⟩
    · exact (inheriting.serves heir before).perform inheriting.rested
        (inheriting.there heir before) stands
    · exact (inheriting.serves handle inherits).createScope (inheriting.inScope handle inherits)
        rooted
  · intro heir member
    rcases mem_inherit member with ⟨before, stands⟩ | ⟨handle, -, rfl, rfl⟩
    · have found := (inheriting.serves heir before).get?
      have same := kept?_perform (inheriting.there heir before) found (single ▸ trivial)
        (spared heir)
      rw [single] at same
      rw [same, inheriting.held heir before, completions_append, List.append_assoc]
    · have unkept : (family.perform (.createScope handle)).kept? family.size .singleton key =
          none := kept?_of_empty (by rw [Family.perform, container_createScope_self])
            (by rw [Family.perform, container_createScope_self])
      -- Nothing was created on the scope before it was there.
      have uncreated : completions family.size key log = [] := by
        rw [List.eq_nil_iff_forall_not_mem]
        intro made created
        obtain ⟨serial, inside⟩ := mem_completions.mp created
        exact Nat.lt_irrefl _ (inheriting.past _ inside)
      rw [unkept, creationsOf, List.append_nil, uncreated, if_neg (Nat.ne_of_gt inheriting.rooted)]
      rfl
  · intro creation member
    rcases List.mem_append.mp member with before | new
    · exact Nat.lt_of_lt_of_le (inheriting.past creation before) grows
    · refine Nat.lt_of_lt_of_le ?_ grows
      cases step with
      | resolve other id =>
          rcases handle_of_mem_creations new with same | same <;> rw [same]
          · exact grounded
          · exact rooted
      | register other id factory lifetime metadata | createScope other | dispose other =>
          cases new

theorem Inheriting.performAll
    (inheriting : Inheriting scope id key registration left log heirs family)
    (single : registration.lifetime = .singleton) (grounded : family.Grounded later)
    (spared : ∀ step ∈ later, ∀ handle, ¬ step.Disposes handle) :
    Inheriting scope id key registration left (log ++ family.creationsAll later)
      (inheritAll key family heirs later) (family.performAll later) := by
  induction later generalizing family heirs log with
  | nil =>
      rw [creationsAll, List.append_nil]
      exact inheriting
  | cons step rest induction =>
      have first := inheriting.perform step single grounded.1 (spared step List.mem_cons_self)
      rw [creationsAll, ← List.append_assoc]
      exact induction first grounded.2 fun other member =>
        spared other (List.mem_cons_of_mem _ member)

theorem Renewed.inheriting (renewed : family.Renewed scope id key registration after)
    (inScope : scope ≠ Handle.root) :
    Inheriting scope id key registration (family.kept? scope .singleton key).toList [] [scope]
      after where
  rested := renewed.rested
  rooted := renewed.there
  there heir member := List.mem_singleton.mp member ▸ renewed.there
  inScope heir member := List.mem_singleton.mp member ▸ inScope
  serves heir member := List.mem_singleton.mp member ▸ renewed.serves
  held heir member := by
    obtain rfl := List.mem_singleton.mp member
    rw [if_pos rfl, completions_nil, List.append_nil, renewed.kept]
  past _ member := absurd member List.not_mem_nil

/-- What an heir keeps was created there once, unless it was left over. -/
theorem Inheriting.completions_eq {found : Instance}
    (inheriting : Inheriting scope id key registration left log heirs family)
    (member : heir ∈ heirs) (held : family.kept? heir .singleton key = some found) :
    completions heir key log = [found] ∨ heir = scope ∧ left = [found] := by
  have same := inheriting.held heir member
  rw [held, Option.toList_some] at same
  by_cases here : heir = scope
  · rw [if_pos here] at same
    rcases List.singleton_eq_append_iff.mp same with ⟨-, created⟩ | ⟨kept, -⟩
    · exact .inl created
    · exact .inr ⟨here, kept⟩
  · rw [if_neg here] at same
    exact .inl same.symm

/-- A singleton is registered on a scope of a family that was reached by any steps; steps
without disposals follow.  When it is then resolved on an heir, the heir has created it once,
unless the scope itself still kept it from a registration before; it stays what is resolved on
the heir and is not created there again; and if factories build fresh values, no other heir
comes to it. -/
theorem heirs_apart {world : World} {factory : Factory World Instance} {metadata : Fields}
    (reached : (Family.start world).performAll earlier = family) (there : scope < family.size)
    (inScope : scope ≠ Handle.root) (named : id.key = some key)
    (registered : family.perform (.register scope id factory .singleton metadata) = after)
    (performed : after.performAll later = final) (grounded : after.Grounded later)
    (spared : ∀ step ∈ later, ∀ handle, ¬ step.Disposes handle) :
    ∀ heir ∈ inheritAll key after [scope] later, ∀ found,
      (final.resolve heir id).1 = .ok found →
        (completions heir key (after.creationsAll (later ++ [.resolve heir id])) = [found] ∨
          heir = scope ∧ family.kept? scope .singleton key = some found) ∧
        (∀ more last, (final.resolve heir id).2.performAll more = last →
          (∀ step ∈ more, ¬ step.Registers heir key) → (∀ step ∈ more, ¬ step.Disposes heir) →
            last.resolve heir id = (.ok found, last) ∧
            completions heir key ((final.resolve heir id).2.creationsAll more) = []) ∧
        ∀ clock : Clock World Instance,
          (∀ step ∈ earlier ++ .register scope id factory .singleton metadata :: later,
            step.Fresh clock) →
          ∀ other ∈ inheritAll key after [scope] later, other ≠ heir → ∀ again,
            ((final.resolve heir id).2.resolve other id).1 = .ok again → again ≠ found := by
  have rested : family.Rested := reached ▸ (rested_start world).performAll earlier
  have renewed := rested.renewed there named registered
  have inheriting := performed ▸ (renewed.inheriting inScope).performAll rfl grounded spared
  intro heir member found came
  have resolved := inheriting.perform (.resolve heir id) rfl (inheriting.there heir member)
    fun _ => not_false
  have servesHeir := resolved.serves heir member
  have thereHeir := resolved.there heir member
  have held : (final.resolve heir id).2.kept? heir .singleton key = some found :=
    kept?_of_resolve (inheriting.serves heir member) (inheriting.rested.free heir key) trivial came
  refine ⟨?_, ?_, ?_⟩
  · rw [creationsAll_append, performed]
    have once := resolved.completions_eq member held
    rwa [Option.toList_eq_singleton_iff, List.nil_append, ← List.append_nil (final.creationsOf _)]
      at once
  · rintro more last rfl stands sparedMore
    have servesLast := servesHeir.performAll resolved.rested thereHeir stands
    have heldLast := stays_performAll thereHeir held sparedMore
    have free := (resolved.rested.performAll more).free heir key
    exact ⟨(creations_of_kept servesLast free heldLast).2,
      completions_eq_nil_of_kept thereHeir servesHeir.get? held stands sparedMore⟩
  · rintro clock fresh other otherMember apart again cameAgain rfl
    have heldOther : ((final.resolve heir id).2.resolve other id).2.kept? other .singleton key =
        some again :=
      kept?_of_resolve (resolved.serves other otherMember) (resolved.rested.free other key) trivial
        cameAgain
    have heldStill := (accounts_resolve (final.resolve heir id).2 other id).stays held
    have replayed : (Family.start world).performAll
        ((earlier ++ .register scope id factory .singleton metadata :: later) ++
          [.resolve heir id, .resolve other id]) =
        ((final.resolve heir id).2.resolve other id).2 := by
      rw [performAll_append, performAll_append, reached, ← performed, ← registered]
      rfl
    rw [← replayed] at heldOther heldStill
    have freshToo : ∀ step ∈ (earlier ++ .register scope id factory .singleton metadata :: later) ++
        [.resolve heir id, .resolve other id], step.Fresh clock :=
      List.forall_mem_append.mpr ⟨fresh, by simp [Step.Fresh]⟩
    exact apart (handle_eq_of_kept? freshToo heldOther heldStill)

/-! ### A scope below a scope -/

def nestedEarlier : List (Step Nat Nat) := [.createScope Handle.root]

def nestedFamily : Family Nat Nat := (Family.start 0).performAll nestedEarlier

def nestedAfter : Family Nat Nat :=
  nestedFamily.perform (.register 1 settings countingFactory .singleton [])

def nestedSteps : List (Step Nat Nat) := [.createScope 1, .createScope 2, .resolve 1 settings]

def nestedFinal : Family Nat Nat := nestedAfter.performAll nestedSteps

/-- The scope and one that is made from it come to two instances of the same singleton. -/
theorem nested_twice :
    inheritAll (.text "settings") nestedAfter [1] nestedSteps = [1, 2, 3] ∧
    (nestedFinal.resolve 1 settings).1 = .ok 0 ∧
    ((nestedFinal.resolve 1 settings).2.resolve 3 settings).1 = .ok 1 ∧
    (nestedAfter.creationsAll (nestedSteps ++ [.resolve 1 settings, .resolve 3 settings])).map
      (fun creation => (creation.handle, creation.serial)) = [(1, 0), (3, 0)] := by
  exact ⟨rfl, rfl, rfl, rfl⟩

theorem heirs_apart_nested :
    1 < nestedFamily.size ∧ nestedAfter.Grounded nestedSteps ∧
    completions 3 (.text "settings")
      (nestedAfter.creationsAll (nestedSteps ++ [.resolve 3 settings])) = [1] ∧
    ∀ again, ((nestedFinal.resolve 3 settings).2.resolve 1 settings).1 = .ok again → again ≠ 1 := by
  have there : 1 < nestedFamily.size := by decide
  have grounded : nestedAfter.Grounded nestedSteps := ⟨by decide, by decide, by decide, trivial⟩
  have fresh : ∀ step ∈ nestedEarlier ++
      .register 1 settings countingFactory .singleton [] :: nestedSteps, step.Fresh counting := by
    simp [nestedEarlier, nestedSteps, Step.Fresh, countingFactory_fresh]
  obtain ⟨created, -, apart⟩ := heirs_apart
    (show (Family.start 0).performAll nestedEarlier = nestedFamily from rfl) there (by decide)
    (show settings.key = some (.text "settings") from rfl)
    (show nestedFamily.perform (.register 1 settings countingFactory .singleton []) = nestedAfter
      from rfl)
    (show nestedAfter.performAll nestedSteps = nestedFinal from rfl) grounded
    (by simp [nestedSteps, Step.Disposes]) 3 (by decide) 1 rfl
  exact ⟨there, grounded, created.resolve_right (by decide), fun again came =>
    apart counting fresh 1 (by decide) (by decide) again came⟩

end PageComposer.Service.Family
