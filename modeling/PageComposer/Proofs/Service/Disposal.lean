import Mathlib.Data.List.Basic
import Mathlib.Data.List.Induction
import PageComposer.Proofs.Service.Failures
import PageComposer.Proofs.Service.Heirs
import PageComposer.Proofs.Service.Replacement

/-!
# Disposal

What a container keeps until it is disposed of are the singletons that were created on it
since it last was, in the order in which their creations ended: `Runs.singletons` says so for
one run, and `Stocked` is the invariant of any number of steps.  `Family.dispose_releases`
concludes which disposers run, and with what, when the container is disposed of.
-/

namespace PageComposer.Service

instance {World Instance : Type} (handle : Handle) (step : Step World Instance) :
    Decidable (step.Disposes handle) :=
  match step with
  | .dispose other => inferInstanceAs (Decidable (other = handle))
  | .register .. | .resolve .. | .createScope _ => isFalse not_false

namespace Family

variable {World Instance : Type} {family between after : Family World Instance}
  {depth : Nat} {handle other : Handle} {id : Identifier} {key : Key}
  {registration : Registration World Instance} {registrations : Table (Registration World Instance)}
  {creation : Creation Instance} {log early late before behind inner : List (Creation Instance)}
  {step : Step World Instance} {steps : List (Step World Instance)}

/-! ### Singletons in the order of their creations -/

/-- The factory and the instance of a creation that came to a singleton of a container, with
the registrations that the container has. -/
def singleton? (registrations : Table (Registration World Instance)) (handle : Handle)
    (creation : Creation Instance) : Option (Factory World Instance × Instance) :=
  if creation.handle = handle then
    (registrations.get? creation.key).bind fun registration =>
      if registration.lifetime = .singleton then
        creation.outcome.toOption.map fun made => (registration.factory, made)
      else none
  else none

/-- The row of a creation that came to a singleton of a container. -/
def row? (registrations : Table (Registration World Instance)) (handle : Handle)
    (creation : Creation Instance) : Option (Key × Instance) :=
  (singleton? registrations handle creation).map fun found => (creation.key, found.2)

theorem row?_of_error {serial : Nat} {fault : Fault} :
    row? registrations handle ⟨other, key, serial, .error fault⟩ = none := by
  simp [row?, singleton?, Except.toOption]

theorem row?_of_ne (elsewhere : creation.handle ≠ handle) :
    row? registrations handle creation = none := by
  simp [row?, singleton?, elsewhere]

/-- An instance that was made is a singleton of the container that made it, if its service is
one. -/
theorem rows_of_made {made : Instance} {serial : Nat}
    (found : Table.get? (family.container handle).registrations key = some registration) :
    [(⟨handle, key, serial, .ok made⟩ : Creation Instance)].filterMap
        (row? (family.container other).registrations other) =
      if other = handle ∧ registration.lifetime = .singleton then [(key, made)] else [] := by
  by_cases here : other = handle
  · subst here
    by_cases single : registration.lifetime = .singleton <;>
      simp [row?, singleton?, found, single, Except.toOption]
  · simp [row?, singleton?, here, Ne.symm here]

theorem singletons_enter (family : Family World Instance) (handle other : Handle)
    (id : Identifier) : ((family.enter handle id).container other).singletons =
      (family.container other).singletons := by
  by_cases same : other = handle <;> simp [enter, modify, same]

theorem singletons_leave (family : Family World Instance) (handle other : Handle) :
    ((family.leave handle).container other).singletons =
      (family.container other).singletons := by
  by_cases same : other = handle <;> simp [leave, modify, same]

theorem singletons_keep {lifetime : Lifetime} (made : Instance) (other : Handle)
    (missing : family.kept? handle lifetime key = none) :
    ((family.keep handle lifetime key made).container other).singletons =
      (family.container other).singletons ++
        if other = handle ∧ lifetime = .singleton then [(key, made)] else [] := by
  by_cases here : other = handle
  · subst here
    cases lifetime with
    | transient => simp [keep]
    | singleton => simp [keep, Table.insert_of_get?_eq_none missing]
    | perScope => by_cases atRoot : other = Handle.root <;> simp [keep, atRoot]
  · simp [container_keep_of_ne family lifetime key made here, here]

/-- What is being created is not kept in the meantime. -/
theorem Accounts.kept?_of_creating {lifetime : Lifetime} (accounts : family.Accounts log after)
    (found : Table.get? (family.container handle).registrations key = some registration)
    (creating : family.IsCreating handle key)
    (missing : family.kept? handle lifetime key = none) :
    after.kept? handle lifetime key = none := by
  cases held : after.kept? handle lifetime key with
  | none => rfl
  | some made =>
      rcases accounts.origin found held with before | ⟨-, created⟩
      · simp [missing] at before
      · obtain ⟨-, -, -, -, free, -⟩ := accounts.due _ created
        exact absurd creating free

/-- A run keeps the singletons that it creates behind those that were kept before, in the
order in which their creations end. -/
theorem Runs.singletons {task : Task World Instance} {trace : List (Event Instance)}
    {outcome : Outcome Instance} (runs : Runs depth handle task family trace outcome after)
    (other : Handle) :
    (after.container other).singletons = (family.container other).singletons ++
      (creationsFor depth handle task family).filterMap
        (row? (family.container other).registrations other) := by
  induction runs with
  | tooDeep | give | fail => exact (List.append_nil _).symm
  | unkeyed keyless =>
      rw [creationsFor, creationsAt_of_unkeyed keyless]
      exact (List.append_nil _).symm
  | unknown named absent =>
      rw [creationsFor, creationsAt_of_unknown named absent]
      exact (List.append_nil _).symm
  | delegated named found single inherited _ onRoot =>
      rw [creationsFor, creationsAt_of_inherits named found single inherited]
      exact onRoot
  | circular serves creating =>
      rw [creationsFor, creationsAt_of_creating serves creating]
      exact (List.append_nil _).symm
  | kept serves free held =>
      rw [creationsFor, creationsAt_of_kept serves free held]
      exact (List.append_nil _).symm
  | @made depth handle id key registration family between trace made serves free missing cooked
      inside =>
      have came := cooked.answer_eq
      rw [answer] at came
      rw [singletons_enter, registrations_enter] at inside
      -- The service was being created all along, so its row is new and goes to the end.
      have found := serves.get?
      rw [← registrations_enter family handle handle id] at found
      have stillMissing : (between.leave handle).kept? handle registration.lifetime key = none := by
        rw [kept?_leave]
        apply cooked.accounts.kept?_of_creating found (isCreating_enter_self serves.named)
        rw [kept?_enter, missing]
      rw [singletons_keep made other stillMissing, singletons_leave, inside, creationsFor,
        creationsAt_of_missing serves free missing, came, List.filterMap_append,
        rows_of_made serves.get?, List.append_assoc]
  | failed serves free missing cooked inside =>
      have came := cooked.answer_eq
      rw [answer] at came
      rw [singletons_enter, registrations_enter] at inside
      rw [singletons_leave, inside, creationsFor, creationsAt_of_missing serves free missing, came,
        List.filterMap_append, List.filterMap_cons_none row?_of_error, List.filterMap_nil,
        List.append_nil]
  | read _ onward | known _ onward => exact onward
  | write _ onward => exact onward
  | need asked _ first onward =>
      have came := asked.answer_eq
      rw [answer] at came
      rw [creationsFor, creationsIn, came]
      rw [asked.sameShape.registrations, first, List.append_assoc, ← List.filterMap_append]
        at onward
      exact onward

/-! ### How creations went -/

/-- A creation ran the factory of a registration on a container that kept nothing of the
service, and in the course of it came other creations. -/
inductive Course : Creation Instance → Registration World Instance →
    List (Creation Instance) → Prop where
  | ran {depth : Nat} {handle : Handle} {id : Identifier} {key : Key}
      {registration : Registration World Instance} {family : Family World Instance}
      (serves : family.Serves handle id key registration)
      (free : ¬ family.IsCreating handle key)
      (missing : family.kept? handle registration.lifetime key = none) :
      Course ⟨handle, key, registration.serial,
          (cook handle (resolveAt depth handle) registration.factory.create
            (family.enter handle id)).1⟩
        registration
        (creationsFor depth handle (.cook registration.factory.create) (family.enter handle id))

/-- Each creation of a log went its course, and what came in the course of it stands right
before it. -/
def Traced (stands : Creation Instance → Registration World Instance → Prop)
    (log : List (Creation Instance)) : Prop :=
  ∀ before creation behind, log = before ++ creation :: behind →
    ∃ registration outer inner, before = outer ++ inner ∧ Course creation registration inner ∧
      stands creation registration

theorem Traced.nil {stands : Creation Instance → Registration World Instance → Prop} :
    Traced stands [] := by
  intro before creation behind split
  simp at split

theorem Traced.append {stands : Creation Instance → Registration World Instance → Prop}
    (first : Traced stands early) (second : Traced stands late) :
    Traced stands (early ++ late) := by
  have inLate (start : List (Creation Instance)) (creation : Creation Instance)
      (behind : List (Creation Instance)) (split : late = start ++ creation :: behind) :
      ∃ registration outer inner, early ++ start = outer ++ inner ∧
        Course creation registration inner ∧ stands creation registration := by
    obtain ⟨registration, outer, inner, rfl, went⟩ := second start creation behind split
    exact ⟨registration, early ++ outer, inner, (List.append_assoc ..).symm, went⟩
  intro before creation behind split
  rcases List.append_eq_append_iff.mp split with ⟨start, rfl, inside⟩ | ⟨rest, inside, same⟩
  · exact inLate start creation behind inside
  · cases rest with
    | nil =>
        obtain rfl : early = before := by simpa using inside
        simpa using inLate [] creation behind same.symm
    | cons next rest =>
        obtain ⟨rfl, -⟩ := List.cons.inj same
        exact first before creation rest inside

theorem Traced.mono {stands known : Creation Instance → Registration World Instance → Prop}
    (traced : Traced stands log)
    (grown : ∀ creation ∈ log, ∀ registration, stands creation registration →
      known creation registration) : Traced known log := by
  rintro before creation behind rfl
  obtain ⟨registration, outer, inner, split, went, standing⟩ := traced before creation behind rfl
  exact ⟨registration, outer, inner, split, went, grown creation (by simp) registration standing⟩

/-- A creation comes behind those that came in the course of it. -/
theorem Traced.concat {stands : Creation Instance → Registration World Instance → Prop}
    (traced : Traced stands log) (went : Course creation registration log)
    (standing : stands creation registration) : Traced stands (log ++ [creation]) := by
  intro before other behind split
  rcases List.eq_nil_or_concat behind with rfl | ⟨rest, last, rfl⟩
  · obtain ⟨rfl, rfl⟩ := List.append_singleton_inj.mp split
    exact ⟨registration, [], log, rfl, went, standing⟩
  · rw [List.concat_eq_append, ← List.cons_append, ← List.append_assoc,
      List.append_singleton_inj] at split
    exact traced before other rest split.1

/-- A registration is the one of a creation, on the container and of the service that were
created. -/
def Stands (family : Family World Instance) (creation : Creation Instance)
    (registration : Registration World Instance) : Prop :=
  Table.get? (family.container creation.handle).registrations creation.key = some registration

theorem stands_congr (registrations : ∀ handle, (after.container handle).registrations =
    (family.container handle).registrations) :
    (after.Stands : Creation Instance → _ → Prop) = family.Stands := by
  funext creation registration
  rw [Stands, Stands, registrations]

theorem Runs.traced {task : Task World Instance} {trace : List (Event Instance)}
    {outcome : Outcome Instance} (runs : Runs depth handle task family trace outcome after) :
    Traced family.Stands (creationsFor depth handle task family) := by
  induction runs with
  | tooDeep | give | fail => exact .nil
  | unkeyed keyless =>
      rw [creationsFor, creationsAt_of_unkeyed keyless]
      exact .nil
  | unknown named absent =>
      rw [creationsFor, creationsAt_of_unknown named absent]
      exact .nil
  | delegated named found single inherited _ onRoot =>
      rw [creationsFor, creationsAt_of_inherits named found single inherited]
      exact onRoot
  | circular serves creating =>
      rw [creationsFor, creationsAt_of_creating serves creating]
      exact .nil
  | kept serves free held =>
      rw [creationsFor, creationsAt_of_kept serves free held]
      exact .nil
  | made serves free missing _ inside | failed serves free missing _ inside =>
      rw [creationsFor, creationsAt_of_missing serves free missing]
      rw [stands_congr fun other => registrations_enter _ _ other _] at inside
      exact inside.concat (.ran serves free missing) serves.get?
  | read _ onward | known _ onward => exact onward
  | write _ onward => exact onward
  | need asked _ first onward =>
      have came := asked.answer_eq
      rw [answer] at came
      rw [creationsFor, creationsIn, came]
      rw [stands_congr asked.sameShape.registrations] at onward
      exact first.append onward

/-! ### Since the last disposal -/

/-- The creations since a container was last disposed of. -/
def creationsSince (handle : Handle) (family : Family World Instance) :
    List (Step World Instance) → List (Creation Instance)
  | [] => []
  | step :: rest =>
      if ∃ other ∈ step :: rest, other.Disposes handle then
        creationsSince handle (family.perform step) rest
      else family.creationsAll (step :: rest)

theorem creationsAll_concat (family : Family World Instance) (steps : List (Step World Instance))
    (step : Step World Instance) :
    family.creationsAll (steps ++ [step]) =
      family.creationsAll steps ++ (family.performAll steps).creationsOf step := by
  rw [creationsAll_append, creationsAll, creationsAll, List.append_nil]

theorem creationsSince_concat (handle : Handle) (family : Family World Instance)
    (steps : List (Step World Instance)) (step : Step World Instance) :
    family.creationsSince handle (steps ++ [step]) =
      if step.Disposes handle then []
      else family.creationsSince handle steps ++ (family.performAll steps).creationsOf step := by
  induction steps generalizing family with
  | nil => by_cases disposes : step.Disposes handle <;>
      simp [creationsSince, creationsAll, disposes, performAll]
  | cons first rest induction =>
      rw [List.cons_append, creationsSince, creationsSince, induction]
      by_cases disposes : step.Disposes handle
      · rw [if_pos ⟨step, by simp, disposes⟩, if_pos disposes, if_pos disposes]
      · have same : (∃ other ∈ first :: (rest ++ [step]), other.Disposes handle) ↔
            ∃ other ∈ first :: rest, other.Disposes handle := by
          simp [or_and_right, exists_or, disposes]
        rw [if_neg disposes, if_neg disposes]
        by_cases earlier : ∃ other ∈ first :: rest, other.Disposes handle
        · rw [if_pos (same.mpr earlier), if_pos earlier]
          rfl
        · rw [if_neg (earlier ∘ same.mp), if_neg earlier, ← List.cons_append, creationsAll_concat]

theorem creationsSince_suffix (handle : Handle) (family : Family World Instance)
    (steps : List (Step World Instance)) :
    family.creationsSince handle steps <:+ family.creationsAll steps := by
  induction steps generalizing family with
  | nil => exact List.suffix_rfl
  | cons step rest induction =>
      rw [creationsSince]
      split
      · exact (induction _).trans (List.suffix_append ..)
      · exact List.suffix_rfl

theorem Grounded.of_append (grounded : family.Grounded (steps ++ [step])) :
    family.Grounded steps := by
  induction steps generalizing family with
  | nil => trivial
  | cons first rest induction => exact ⟨grounded.1, induction grounded.2⟩

/-- What was created was created on a container that is there. -/
theorem Grounded.handle_lt (grounded : family.Grounded steps) (rooted : 0 < family.size)
    (member : creation ∈ family.creationsAll steps) :
    creation.handle < (family.performAll steps).size := by
  have grows (family : Family World Instance) (steps : List (Step World Instance)) :
      family.size ≤ (family.performAll steps).size := by
    induction steps generalizing family with
    | nil => exact Nat.le.refl
    | cons step rest induction =>
        exact Nat.le_trans (size_le_perform family step) (induction _)
  induction steps generalizing family with
  | nil => cases member
  | cons step rest induction =>
      rcases List.mem_append.mp member with first | later
      · refine Nat.lt_of_lt_of_le ?_ (grows family (step :: rest))
        cases step with
        | resolve handle id =>
            rcases handle_of_mem_creations first with here | onRoot
            · exact here ▸ grounded.1
            · exact onRoot ▸ rooted
        | register handle id factory lifetime metadata | createScope handle | dispose handle =>
            cases first
      · exact induction grounded.2 (Nat.lt_of_lt_of_le rooted (size_le_perform family step)) later

/-- Nothing is registered anew on a container once it was created there. -/
def Settled (handle : Handle) (family : Family World Instance)
    (steps : List (Step World Instance)) : Prop :=
  ∀ early step late key, steps = early ++ step :: late → step.Registers handle key →
    completions handle key (family.creationsAll early) = []

/-- Nothing is registered anew where all that is registered is so before anything is created. -/
theorem settled_append {first second : List (Step World Instance)}
    (uncreated : family.creationsAll first = [])
    (stands : ∀ step ∈ second, ∀ key, ¬ step.Registers handle key) :
    Settled handle family (first ++ second) := by
  intro early step late key split registers
  rcases List.append_eq_append_iff.mp split with ⟨start, -, rfl⟩ | ⟨rest, rfl, -⟩
  · exact absurd registers (stands step (by simp) key)
  · rw [creationsAll_append, List.append_eq_nil_iff] at uncreated
    rw [uncreated.1, completions_nil]

/-- A container keeps the singletons that were created on it according to a log, in the order
of the log, and has the registrations that created them. -/
structure Stocked (handle : Handle) (log : List (Creation Instance))
    (container : Container World Instance) : Prop where
  singletons : container.singletons = log.filterMap (row? container.registrations handle)
  traced : Traced (fun creation registration => creation.handle = handle →
    ∀ made, creation.outcome = .ok made →
      container.registrations.get? creation.key = some registration) log

theorem row?_insert (uncreated : completions handle key log = []) (member : creation ∈ log) :
    row? (registrations.insert key registration) handle creation =
      row? registrations handle creation := by
  obtain ⟨other, name, serial, outcome⟩ := creation
  cases outcome with
  | error fault => rw [row?_of_error, row?_of_error]
  | ok made =>
      by_cases here : other = handle
      · subst here
        have apart : key ≠ name := by
          rintro rfl
          have created : made ∈ completions other key log := mem_completions.mpr ⟨serial, member⟩
          simp [uncreated] at created
        simp [row?, singleton?, Table.get?_insert, apart]
      · simp [row?, singleton?, here]

theorem Stocked.perform (stocked : Stocked handle log (family.container handle))
    (settled : ∀ key, step.Registers handle key → completions handle key log = [])
    (placed : ∀ creation ∈ log, creation.handle < family.size) :
    Stocked handle (if step.Disposes handle then [] else log ++ family.creationsOf step)
      ((family.perform step).container handle) := by
  cases family.turn handle step with
  | untouched spared uncreated same =>
      rwa [if_neg spared, uncreated, List.append_nil, same]
  | @registered key registration spared uncreated registers _ _ same =>
      have unmade := settled key registers
      rw [if_neg spared, uncreated, List.append_nil, same]
      constructor
      · rw [stocked.singletons]
        exact List.filterMap_congr fun creation member => (row?_insert unmade member).symm
      · refine stocked.traced.mono fun creation member own stands here made came => ?_
        rw [Table.get?_insert, if_neg, stands here made came]
        rintro rfl
        have created : made ∈ completions handle creation.key log :=
          mem_completions.mpr ⟨creation.serial, here ▸ came ▸ member⟩
        simp [unmade] at created
  | @resolved other id same =>
      subst same
      obtain ⟨trace, runs⟩ := runs_resolveAt (family.depth other) other id family
      have registrations : ((family.perform (.resolve other id)).container handle).registrations =
        (family.container handle).registrations := runs.sameShape.registrations handle
      have grown : ((family.perform (.resolve other id)).container handle).singletons =
        (family.container handle).singletons ++ (family.creationsOf (.resolve other id)).filterMap
          (row? (family.container handle).registrations handle) := runs.singletons handle
      have traced : Traced family.Stands (family.creationsOf (.resolve other id)) := runs.traced
      have spared : ¬ Step.Disposes handle (.resolve other id : Step World Instance) := not_false
      rw [if_neg spared]
      constructor
      · rw [grown, registrations, stocked.singletons, List.filterMap_append]
      · rw [registrations]
        refine stocked.traced.append (traced.mono ?_)
        rintro creation - registration stands rfl made -
        exact stands
  | made uncreated new same =>
      have elsewhere : ∀ creation ∈ log, creation.handle ≠ handle := fun creation member =>
        Nat.ne_of_lt (new ▸ placed creation member)
      rw [uncreated, List.append_nil, same]
      split
      · exact ⟨rfl, .nil⟩
      · refine ⟨(List.filterMap_eq_nil_iff.mpr fun creation member => ?_).symm, ?_⟩
        · exact row?_of_ne (elsewhere creation member)
        · refine stocked.traced.mono fun creation member registration _ here => ?_
          exact absurd here (elsewhere creation member)
  | disposed uncreated disposes same =>
      rw [if_pos disposes, same]
      exact ⟨rfl, .nil⟩

theorem stocked_performAll {world : World} (grounded : (Family.start world).Grounded steps)
    (settled : Settled handle (Family.start world) steps) :
    Stocked handle ((Family.start world).creationsSince handle steps)
      (((Family.start world).performAll steps).container handle) := by
  induction steps using List.reverseRecOn with
  | nil => exact ⟨rfl, .nil⟩
  | append_singleton steps step induction =>
      have settledBefore : Settled handle (Family.start world) steps := by
        rintro early other late key rfl
        exact settled early other (late ++ [step]) key (by simp)
      have stocked := induction grounded.of_append settledBefore
      have among := (creationsSince_suffix handle (Family.start world) steps).subset
      rw [creationsSince_concat, performAll_append]
      apply stocked.perform
      · intro key registers
        have unmade := settled steps step [] key rfl registers
        exact List.eq_nil_iff_forall_not_mem.mpr fun made member => by
          obtain ⟨serial, inside⟩ := mem_completions.mp member
          have created := mem_completions.mpr ⟨serial, among inside⟩
          simp [unmade] at created
      · intro creation member
        exact grounded.of_append.handle_lt Nat.one_pos (among member)

/-! ### Disposal -/

theorem disposals_of_stocked {container : Container World Instance}
    (stocked : Stocked handle log container) :
    disposals container = log.filterMap (singleton? container.registrations handle) := by
  rw [disposals, stocked.singletons, List.filterMap_filterMap]
  apply List.filterMap_congr
  rintro ⟨other, key, serial, outcome⟩ -
  by_cases here : other = handle
  · cases found : container.registrations.get? key with
    | none => simp [row?, singleton?, found]
    | some registration =>
        by_cases single : registration.lifetime = .singleton <;>
          cases outcome <;> simp [row?, singleton?, here, found, single, Except.toOption]
  · simp [row?, singleton?, here]

theorem dispose_dispose (family : Family World Instance) (handle : Handle) :
    (family.dispose handle).dispose handle = family.dispose handle := by
  rw [dispose, container_dispose_self]
  simp only [dispose, modify, release, Family.mk.injEq, and_true, true_and]
  funext other
  by_cases here : other = handle <;> simp [here]

/-- A container was disposed of, with the creations since it last was in a log. -/
structure Releases (handle : Handle) (log : List (Creation Instance))
    (family after : Family World Instance) : Prop where
  /-- The disposers that run, with their instances, in the order in which creations ended. -/
  order : disposals (family.container handle) =
    log.filterMap (singleton? (family.container handle).registrations handle)
  /-- They are all that the container keeps as singletons, one for each service. -/
  whole : (disposals (family.container handle)).map Prod.snd =
    (family.container handle).singletons.map Prod.snd
  once : ((family.container handle).singletons.map Prod.fst).Nodup
  /-- The disposer that runs for an instance belongs to the factory that made it, and what
  was created while that factory ran comes right before the instance. -/
  own : ∀ before creation behind, log = before ++ creation :: behind →
    creation.handle = handle → ∀ made, creation.outcome = .ok made →
      ∃ registration outer inner, before = outer ++ inner ∧ Course creation registration inner ∧
        Table.get? (family.container handle).registrations creation.key = some registration
  /-- Each disposer does its work, whatever the ones before it came to. -/
  world : after.world = (disposals (family.container handle)).foldl
    (fun world disposal => (disposal.1.dispose disposal.2 world).2) family.world
  emptied : after.container handle = ⟨(family.container handle).registrations, [], [], []⟩
  others : ∀ other, other ≠ handle → after.container other = family.container other
  again : disposals (after.container handle) = [] ∧ after.dispose handle = after
  /-- Whatever is next resolved of the container, if not registered anew, is created anew. -/
  anew : ∀ id key registration, after.Serves handle id key registration →
    ∀ later final, after.performAll later = final →
      (∀ step ∈ later, ¬ step.Registers handle key) →
      completions handle key (after.creationsAll later) = [] →
      ∀ through, ∀ again : Identifier, again.key = some key →
        final.venue through again = handle →
          ∃ before, final.creations through again =
            before ++ [⟨handle, key, registration.serial, (final.resolve through again).1⟩]

/-- After any run in which nothing was registered anew on a container once it was created
there, disposing of the container releases what it keeps, and all of it. -/
theorem dispose_releases {world : World} (grounded : (Family.start world).Grounded steps)
    (settled : Settled handle (Family.start world) steps)
    (reached : (Family.start world).performAll steps = family) (there : handle < family.size) :
    Releases handle ((Family.start world).creationsSince handle steps) family
      (family.dispose handle) := by
  have stocked := stocked_performAll grounded settled
  rw [reached] at stocked
  have order := disposals_of_stocked stocked
  have rested : family.Rested := reached ▸ (rested_start world).performAll steps
  refine {
    order := order
    whole := ?_
    once := reached ▸ (tidy_start world).performAll steps handle
    own := ?_
    world := world_dispose family handle
    emptied := container_dispose_self
    others := fun other apart => container_dispose_of_ne apart
    again := ⟨by rw [container_dispose_self]; rfl, dispose_dispose family handle⟩
    anew := ?_ }
  · rw [order, stocked.singletons, List.map_filterMap, List.map_filterMap]
    refine List.filterMap_congr fun creation _ => ?_
    simp [row?, Function.comp_def]
  · intro before creation behind split here made came
    obtain ⟨registration, outer, inner, divided, went, standing⟩ :=
      stocked.traced before creation behind split
    exact ⟨registration, outer, inner, divided, went, standing here made came⟩
  · rintro id key registration serves later final rfl stands uncreated through again named venue
    have missing : (family.dispose handle).kept? handle registration.lifetime key = none :=
      kept?_of_empty (by rw [container_dispose_self]) (by rw [container_dispose_self])
    exact serves.created_anew (rested.perform (.dispose handle)) there missing stands uncreated
      named venue

/-! ### A session that needs an engine -/

/-- Instances are numbered; the disposer notes the instance and then fails. -/
def notingFactory (needs : List Identifier) : Factory (Nat × List Nat) Nat where
  create := .requireAll (fun _ => .read fun world => .write (world.1 + 1, world.2) (.give world.1))
    needs
  dispose made world := (.error .wrongKind, (world.1, world.2 ++ [made]))

def engine : Identifier := .ofText "engine"

def session : Identifier := .ofText "session"

def broken : Identifier := .ofText "broken"

def brokenFactory : Factory (Nat × List Nat) Nat :=
  .ofRecipe (.require session fun _ => .fail .wrongKind)

def engineWiring : List (Step (Nat × List Nat) Nat) := [
  .register Handle.root session (notingFactory [engine]) .singleton [],
  .register Handle.root engine (notingFactory []) .singleton [],
  .register Handle.root broken brokenFactory .singleton []]

def engineSteps : List (Step (Nat × List Nat) Nat) :=
  engineWiring ++ [.resolve Handle.root broken]

def engineFamily : Family (Nat × List Nat) Nat := (Family.start (0, [])).performAll engineSteps

/-- The failed creation leaves two instances behind, and the engine, though it was registered
and needed last, is the first of them to go. -/
theorem dispose_releases_engine :
    (Family.start (0, [])).Grounded engineSteps ∧
    Settled Handle.root (Family.start (0, [])) engineSteps ∧ Handle.root < engineFamily.size ∧
    Releases Handle.root ((Family.start (0, [])).creationsSince Handle.root engineSteps)
      engineFamily (engineFamily.dispose Handle.root) ∧
    (disposals (engineFamily.container Handle.root)).map Prod.snd = [0, 1] ∧
    (engineFamily.dispose Handle.root).world = (2, [0, 1]) := by
  have grounded : (Family.start (0, [])).Grounded engineSteps :=
    ⟨by decide, by decide, by decide, by decide, trivial⟩
  have settled : Settled Handle.root (Family.start (0, [])) engineSteps :=
    settled_append (show creationsAll _ engineWiring = [] from rfl) (by simp [Step.Registers])
  have there : Handle.root < engineFamily.size := by decide
  exact ⟨grounded, settled, there, dispose_releases grounded settled rfl there, rfl, rfl⟩

end Family

end PageComposer.Service
