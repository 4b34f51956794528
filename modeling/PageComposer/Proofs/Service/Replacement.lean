import PageComposer.Proofs.Service.Standing
import Mathlib.Data.List.Nodup

/-!
# Replaced registrations

A registration takes the place of the one before it, but not of the instance that is kept.
`Family.prevails_iff` says when all that comes of a service after it was registered anew is
created by the new registration: if nothing was kept of the service when it was registered,
or once the container was disposed of.  Otherwise the old instance is still resolved, and it
is handed to the disposer of the new registration.
-/

namespace PageComposer.Service

/-! ### One row for each key -/

theorem Table.fst_insert {Entry : Type} (table : Table Entry) (key : Key) (entry : Entry) :
    (table.insert key entry).map Prod.fst = table.map Prod.fst ∨
      key ∉ table.map Prod.fst ∧
        (table.insert key entry).map Prod.fst = table.map Prod.fst ++ [key] := by
  induction table with
  | nil => exact .inr ⟨nofun, rfl⟩
  | cons row rest induction =>
      obtain ⟨name, old⟩ := row
      rw [Table.insert]
      split
      · exact .inl rfl
      · rename_i apart
        rcases induction with same | ⟨absent, appended⟩
        · exact .inl (congrArg (name :: ·) same)
        · refine .inr ⟨?_, congrArg (name :: ·) appended⟩
          simpa [Ne.symm apart] using absent

theorem Table.nodup_insert {Entry : Type} {table : Table Entry}
    (nodup : (table.map Prod.fst).Nodup) (key : Key) (entry : Entry) :
    ((table.insert key entry).map Prod.fst).Nodup := by
  rcases Table.fst_insert table key entry with same | ⟨absent, appended⟩
  · rwa [same]
  · rw [appended]
    exact nodup.append (List.nodup_singleton key) (List.disjoint_singleton.mpr absent)

theorem Table.get?_of_mem {Entry : Type} {table : Table Entry} {key : Key} {entry : Entry}
    (nodup : (table.map Prod.fst).Nodup) (member : (key, entry) ∈ table) :
    table.get? key = some entry := by
  induction table with
  | nil => cases member
  | cons row rest induction =>
      obtain ⟨name, old⟩ := row
      rw [List.map_cons, List.nodup_cons] at nodup
      rw [Table.get?]
      rcases List.mem_cons.mp member with here | behind
      · cases here
        exact if_pos rfl
      · rw [if_neg, induction nodup.2 behind]
        rintro rfl
        exact nodup.1 (List.mem_map.mpr ⟨_, behind, rfl⟩)

namespace Family

variable {World Instance : Type} {family between after : Family World Instance}
  {handle : Handle} {id : Identifier} {key : Key} {registration : Registration World Instance}
  {step : Step World Instance} {steps : List (Step World Instance)}

/-- Every container keeps one singleton under a key. -/
def Tidy (family : Family World Instance) : Prop :=
  ∀ handle, ((family.container handle).singletons.map Prod.fst).Nodup

theorem Tidy.of_singletons (tidy : family.Tidy)
    (same : ∀ handle, (after.container handle).singletons =
      (family.container handle).singletons) : after.Tidy := by
  intro handle
  rw [same]
  exact tidy handle

theorem Tidy.enter (tidy : family.Tidy) (handle : Handle) (id : Identifier) :
    (family.enter handle id).Tidy :=
  tidy.of_singletons fun other => by
    by_cases here : other = handle <;> simp [Family.enter, modify, here]

theorem Tidy.leave (tidy : family.Tidy) (handle : Handle) : (family.leave handle).Tidy :=
  tidy.of_singletons fun other => by
    by_cases here : other = handle <;> simp [Family.leave, modify, here]

theorem Tidy.keep (tidy : family.Tidy) (handle : Handle) (lifetime : Lifetime) (key : Key)
    (made : Instance) : (family.keep handle lifetime key made).Tidy := by
  cases lifetime with
  | transient => exact tidy
  | singleton =>
      intro other
      by_cases here : other = handle
      · subst here
        simpa [Family.keep] using Table.nodup_insert (tidy other) key made
      · rw [container_keep_of_ne family _ _ _ here]
        exact tidy other
  | perScope =>
      refine tidy.of_singletons fun other => ?_
      rw [Family.keep]
      split
      · rfl
      · by_cases here : other = handle <;> simp [modify, here]

theorem Runs.tidy {depth : Nat} {task : Task World Instance} {trace : List (Event Instance)}
    {outcome : Outcome Instance} (runs : Runs depth handle task family trace outcome after)
    (tidy : family.Tidy) : after.Tidy := by
  induction runs with
  | tooDeep | unkeyed _ | unknown _ _ | circular _ _ | kept _ _ _ | give | fail => exact tidy
  | delegated _ _ _ _ _ onRoot => exact onRoot tidy
  | made _ _ _ _ cooked => exact ((cooked (tidy.enter _ _)).leave _).keep _ _ _ _
  | failed _ _ _ _ cooked => exact (cooked (tidy.enter _ _)).leave _
  | read _ onward | write _ onward | known _ onward => exact onward tidy
  | need _ _ asked onward => exact onward (asked tidy)

theorem Tidy.perform (tidy : family.Tidy) (step : Step World Instance) :
    (family.perform step).Tidy := by
  intro handle
  cases family.turn handle step with
  | untouched _ _ same | registered _ _ _ _ _ same =>
      rw [same]
      exact tidy handle
  | resolved same =>
      subst same
      obtain ⟨trace, runs⟩ := runs_resolveAt (family.depth _) _ _ family
      exact runs.tidy tidy handle
  | made _ _ same | disposed _ _ same =>
      rw [same]
      exact List.nodup_nil

theorem Tidy.performAll (tidy : family.Tidy) (steps : List (Step World Instance)) :
    (family.performAll steps).Tidy := by
  induction steps generalizing family with
  | nil => exact tidy
  | cons step rest induction => exact induction (tidy.perform step)

theorem tidy_start (world : World) : (Family.start world : Family World Instance).Tidy :=
  fun _ => List.nodup_nil

/-! ### Registering anew -/

/-- All that comes of a service on a container is created by a registration: what is resolved
after some steps, and what is there to be disposed of. -/
structure Prevails (family : Family World Instance) (handle : Handle) (id : Identifier) (key : Key)
    (registration : Registration World Instance) (later : List (Step World Instance)) : Prop where
  resolved : ∀ found, ((family.performAll later).resolve handle id).1 = .ok found →
    ⟨handle, key, registration.serial, .ok found⟩ ∈
      family.creationsAll (later ++ [.resolve handle id])
  disposed : ∀ made, (key, made) ∈ ((family.performAll later).container handle).singletons →
    registration.lifetime = .singleton ∧
      ⟨handle, key, registration.serial, .ok made⟩ ∈ family.creationsAll later

section

variable {final : Family World Instance} {later : List (Step World Instance)}

theorem prevails_of_unkept (tidy : family.Tidy) (rested : family.Rested)
    (there : handle < family.size) (serves : family.Serves handle id key registration)
    (stands : ∀ step ∈ later, ¬ step.Registers handle key)
    (unkept : ∀ lifetime made, lifetime = registration.lifetime ∨ lifetime = .singleton →
      family.kept? handle lifetime key = some made → ∃ step ∈ later, step.Disposes handle) :
    family.Prevails handle id key registration later := by
  have servesLater := serves.performAll rested there stands
  have origin (lifetime : Lifetime) (made : Instance)
      (either : lifetime = registration.lifetime ∨ lifetime = .singleton)
      (held : (family.performAll later).kept? handle lifetime key = some made) :
      registration.lifetime = lifetime ∧
        ⟨handle, key, registration.serial, .ok made⟩ ∈ family.creationsAll later := by
    rcases origin_performAll there serves.get? stands held with ⟨before, spared⟩ | created
    · obtain ⟨step, member, disposes⟩ := unkept lifetime made either before
      exact absurd disposes (spared step member)
    · exact created
  constructor
  · intro found came
    rw [creationsAll_append]
    have free := (rested.performAll later).free handle key
    cases held : (family.performAll later).kept? handle registration.lifetime key with
    | some made =>
        rw [(creations_of_kept servesLater free held).2] at came
        cases came
        exact List.mem_append_left _ (origin _ _ (.inl rfl) held).2
    | none =>
        obtain ⟨before, same⟩ := creations_of_missing servesLater free held
        rw [came] at same
        apply List.mem_append_right
        rw [creationsAll, creationsOf, same]
        exact List.mem_append_left _ (List.mem_append_right _ (List.mem_singleton_self _))
  · intro made member
    have held : (family.performAll later).kept? handle .singleton key = some made :=
      Table.get?_of_mem (tidy.performAll later handle) member
    exact origin .singleton made (.inr rfl) held

theorem not_prevails_of_kept {lifetime : Lifetime} {made : Instance} (rested : family.Rested)
    (there : handle < family.size) (serves : family.Serves handle id key registration)
    (stands : ∀ step ∈ later, ¬ step.Registers handle key)
    (spared : ∀ step ∈ later, ¬ step.Disposes handle)
    (either : lifetime = registration.lifetime ∨ lifetime = .singleton)
    (held : family.kept? handle lifetime key = some made) :
    ¬ family.Prevails handle id key registration later := by
  intro prevails
  have heldLater := stays_performAll there held spared
  -- What is kept under the lifetime is resolved; another singleton is only disposed of.
  by_cases same : registration.lifetime = lifetime
  · subst same
    have free := (rested.performAll later).free handle key
    have servesLater := serves.performAll rested there stands
    have came := (creations_of_kept servesLater free heldLater).2
    have created := prevails.resolved made (by rw [came])
    have uncreated :
        completions handle key (family.creationsAll (later ++ [.resolve handle id])) = [] := by
      apply completions_eq_nil_of_kept there serves.get? held
      · simpa [or_imp, forall_and, Step.Registers] using stands
      · simpa [or_imp, forall_and, Step.Disposes] using spared
    have member := mem_completions.mpr ⟨_, created⟩
    rw [uncreated] at member
    cases member
  · obtain rfl : lifetime = .singleton := either.resolve_left (Ne.symm same)
    exact same (prevails.disposed made (Table.mem_of_get? heldLater)).1

theorem prevails_iff_unkept (tidy : family.Tidy) (rested : family.Rested)
    (there : handle < family.size) (serves : family.Serves handle id key registration)
    (stands : ∀ step ∈ later, ¬ step.Registers handle key) :
    family.Prevails handle id key registration later ↔
      (∀ kind, kind = registration.lifetime ∨ kind = .singleton →
        family.kept? handle kind key = none) ∨ ∃ step ∈ later, step.Disposes handle := by
  constructor
  · intro prevails
    by_contra neither
    obtain ⟨leftover, spared⟩ := not_or.mp neither
    push Not at leftover spared
    obtain ⟨kind, either, held⟩ := leftover
    obtain ⟨old, held⟩ := Option.ne_none_iff_exists'.mp held
    exact not_prevails_of_kept rested there serves stands spared either held prevails
  · intro unkept
    apply prevails_of_unkept tidy rested there serves stands
    intro kind made either held
    refine unkept.resolve_left fun absent => ?_
    rw [absent kind either] at held
    cases held

/-- When a service is registered anew on a container of a family that was reached by any
steps, and stands for some steps, then all that comes of it is created by the new registration
exactly if nothing was kept of it or the container was disposed of.  The disposer of the new
registration gets whatever singleton is there of the service.  What was kept was created by a
registration that was replaced; until the container is disposed of, it is what is resolved
where the new registration has its lifetime, and what is disposed of if it is a singleton. -/
theorem prevails_iff {world : World} {earlier : List (Step World Instance)}
    {factory : Factory World Instance} {lifetime : Lifetime} {metadata : Fields}
    (reached : (Family.start world).performAll earlier = family) (there : handle < family.size)
    (named : id.key = some key)
    (registered : family.perform (.register handle id factory lifetime metadata) = after)
    (performed : after.performAll later = final)
    (stands : ∀ step ∈ later, ¬ step.Registers handle key) :
    (after.Prevails handle id key ⟨factory, lifetime, metadata, family.nextSerial⟩ later ↔
      (∀ kind, kind = lifetime ∨ kind = .singleton → family.kept? handle kind key = none) ∨
        ∃ step ∈ later, step.Disposes handle) ∧
    (∀ made, (key, made) ∈ (final.container handle).singletons →
      (factory, made) ∈ disposals (final.container handle)) ∧
    ∀ kind old, family.kept? handle kind key = some old →
      (∃ serial < family.nextSerial,
        ⟨handle, key, serial, .ok old⟩ ∈ (Family.start world).creationsAll earlier) ∧
      ((∀ step ∈ later, ¬ step.Disposes handle) →
        (kind = lifetime → final.resolve handle id = (.ok old, final) ∧
          completions handle key (after.creationsAll later) = []) ∧
        (kind = .singleton → (factory, old) ∈ disposals (final.container handle))) := by
  have rested : family.Rested := reached ▸ (rested_start world).performAll earlier
  have tidy : family.Tidy := reached ▸ (tidy_start world).performAll earlier
  have tidyAfter : after.Tidy := registered ▸ tidy.perform _
  obtain ⟨restedAfter, thereAfter, serves, kept⟩ := rested.renewed there named registered
  have servesLater := performed ▸ serves.performAll restedAfter thereAfter stands
  have handed (made : Instance) (member : (key, made) ∈ (final.container handle).singletons) :
      (factory, made) ∈ disposals (final.container handle) := by
    refine List.mem_filterMap.mpr ⟨_, member, ?_⟩
    rw [servesLater.get?]
    rfl
  refine ⟨?_, handed, ?_⟩
  · simpa only [kept] using prevails_iff_unkept tidyAfter restedAfter thereAfter serves stands
  · intro kind old held
    constructor
    · rw [← reached] at held
      obtain ⟨serial, created⟩ := exists_creation_of_kept? held
      exact ⟨serial, reached ▸ serial_lt_of_mem_creationsAll (rested_start world) created, created⟩
    · intro spared
      have heldAfter := (kept kind).trans held
      have heldLater := performed ▸ stays_performAll thereAfter heldAfter spared
      constructor
      · rintro rfl
        have free := (performed ▸ restedAfter.performAll later : final.Rested).free handle key
        exact ⟨(creations_of_kept servesLater free heldLater).2,
          completions_eq_nil_of_kept thereAfter serves.get? heldAfter stands spared⟩
      · rintro rfl
        exact handed old (Table.mem_of_get? heldLater)

end

/-! ### Settings that are replaced -/

def replacingFactory : Factory Nat Nat :=
  { countingFactory with dispose := fun _ count => (.ok (), count + 100) }

def replacedSteps : List (Step Nat Nat) := [
  .register Handle.root settings closingFactory .singleton [],
  .resolve Handle.root settings]

def replacedFamily : Family Nat Nat := (Family.start 0).performAll replacedSteps

def replacingRegistration : Registration Nat Nat := ⟨replacingFactory, .singleton, [], 1⟩

def replacedAfter : Family Nat Nat :=
  replacedFamily.perform (.register Handle.root settings replacingFactory .singleton [])

/-- The old settings are resolved after other ones were registered, and the disposer of the
other ones disposes of them. -/
theorem replaced_lingers :
    (replacedAfter.container Handle.root).find? settings = some replacingRegistration ∧
    (replacedAfter.resolve Handle.root settings).1 = .ok 0 ∧
    (replacedAfter.dispose Handle.root).world = 101 ∧
    ¬ replacedAfter.Prevails Handle.root settings (.text "settings") replacingRegistration [] := by
  refine ⟨rfl, rfl, rfl, ?_⟩
  intro prevails
  cases prevails.resolved 0 rfl

/-- Once the root was disposed of, the new settings prevail. -/
theorem prevails_iff_replaced :
    Handle.root < replacedFamily.size ∧
    replacedAfter.resolve Handle.root settings = (.ok 0, replacedAfter) ∧
    (∃ serial < 1, ⟨Handle.root, .text "settings", serial, .ok 0⟩ ∈
      (Family.start 0).creationsAll replacedSteps) ∧
    (replacingFactory, 0) ∈ disposals (replacedAfter.container Handle.root) ∧
    replacedAfter.Prevails Handle.root settings (.text "settings") replacingRegistration
      [.dispose Handle.root] := by
  have there : Handle.root < replacedFamily.size := by decide
  have reached : (Family.start 0).performAll replacedSteps = replacedFamily := rfl
  have named : settings.key = some (.text "settings") := rfl
  have registered : replacedFamily.perform
      (.register Handle.root settings replacingFactory .singleton []) = replacedAfter := rfl
  obtain ⟨-, -, lingers⟩ := prevails_iff reached there named registered
    (show replacedAfter.performAll [] = replacedAfter from rfl) nofun
  obtain ⟨prevails, -⟩ := prevails_iff reached there named registered
    (show replacedAfter.performAll [.dispose Handle.root] = replacedAfter.dispose Handle.root
      from rfl) (by simp [Step.Registers])
  obtain ⟨created, kept⟩ := lingers .singleton 0 rfl
  obtain ⟨resolved, handed⟩ := kept nofun
  exact ⟨there, (resolved rfl).1, created, handed rfl,
    prevails.mpr (.inr ⟨_, List.mem_singleton_self _, rfl⟩)⟩

end Family

end PageComposer.Service
