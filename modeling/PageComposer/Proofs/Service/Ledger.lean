import PageComposer.Proofs.Service.Runs

/-!
# Ledgers of instances

A ledger lists what becomes of instances, on all containers of a family.  It is justified
if each entry may follow those before it: an instance is made where the lifetime of its
service has it live and nothing lives there yet, and what is handed out lives there or was
made just now.  `Justified.resolved_eq_iff` reads off a justified ledger when a service
comes to the same instance twice.
-/

namespace PageComposer.Service

abbrev Ledger (Instance : Type) := List (Event Instance)

namespace Ledger

variable {Instance : Type} {lifetimes : Key → Option Lifetime}

def instances (events : Ledger Instance) : List Instance :=
  events.filterMap fun
    | .made _ _ made => some made
    | .resolved .. | .disposed _ => none

theorem mem_instances_iff {events : Ledger Instance} {made : Instance} :
    made ∈ instances events ↔ ∃ handle key, .made handle key made ∈ events := by
  simp only [instances, List.mem_filterMap]
  constructor
  · rintro ⟨event, member, same⟩
    cases event with
    | made handle key other =>
        obtain rfl := Option.some.inj same
        exact ⟨handle, key, member⟩
    | resolved | disposed => simp at same
  · rintro ⟨handle, key, member⟩
    exact ⟨_, member, rfl⟩

theorem instances_append (first second : Ledger Instance) :
    instances (first ++ second) = instances first ++ instances second := by
  simp [instances]

/-! ### What lives on a container -/

/-- What lives on a container under a key after an event, from what did before. -/
def after (handle : Handle) (key : Key) (held : Option Instance) :
    Event Instance → Option Instance
  | .made other name made => if other = handle ∧ name = key then some made else held
  | .resolved .. => held
  | .disposed other => if other = handle then none else held

/-- What lives on a container under a key: what was made last, if the container was not
disposed of since. -/
def holding (handle : Handle) (key : Key) (events : Ledger Instance) : Option Instance :=
  events.foldl (after handle key) none

section

variable {handle : Handle} {key : Key}

theorem holding_concat (events : Ledger Instance) (event : Event Instance) :
    holding handle key (events ++ [event]) =
      after handle key (holding handle key events) event := by
  simp [holding]

/-- What lives on a container was made since a moment, or lived there then and the
container was not disposed of since. -/
theorem holding_append_cases {first second : Ledger Instance} {found : Instance}
    (held : holding handle key (first ++ second) = some found) :
    .made handle key found ∈ second ∨
      (holding handle key first = some found ∧ .disposed handle ∉ second) := by
  induction second generalizing first with
  | nil => exact .inr ⟨by simpa using held, by simp⟩
  | cons event rest induction =>
      rw [List.append_cons] at held
      rcases induction held with later | ⟨before, undisturbed⟩
      · exact .inl (List.mem_cons_of_mem _ later)
      · rw [holding_concat] at before
        cases event with
        | made other name made =>
            by_cases here : other = handle ∧ name = key
            · obtain ⟨rfl, rfl⟩ := here
              simp only [after, and_self, if_true, Option.some.injEq] at before
              exact .inl (by simp [before])
            · rw [after, if_neg here] at before
              exact .inr ⟨before, by simpa using undisturbed⟩
        | resolved other name made => exact .inr ⟨before, by simpa using undisturbed⟩
        | disposed other =>
            by_cases here : other = handle
            · simp [after, here] at before
            · rw [after, if_neg here] at before
              exact .inr ⟨before, by simp [undisturbed, Ne.symm here]⟩

theorem mem_of_holding {events : Ledger Instance} {found : Instance}
    (held : holding handle key events = some found) : .made handle key found ∈ events := by
  rcases holding_append_cases (show holding handle key ([] ++ events) = some found from held) with
    later | ⟨before, -⟩
  · exact later
  · simp [holding] at before

end

/-! ### Justified ledgers -/

/-- An event may come after others, as the lifetimes of services have it. -/
def Follows (lifetimes : Key → Option Lifetime) (events : Ledger Instance) :
    Event Instance → Prop
  | .made handle key made =>
      ∃ lifetime, lifetimes key = some lifetime ∧ lifetime.home handle = handle ∧
        (lifetime.Keeps handle → holding handle key events = none) ∧ made ∉ instances events
  | .resolved handle key found =>
      ∃ lifetime, lifetimes key = some lifetime ∧
        (lifetime.Keeps (lifetime.home handle) →
          holding (lifetime.home handle) key events = some found) ∧
        (¬ lifetime.Keeps (lifetime.home handle) →
          events.getLast? = some (.made (lifetime.home handle) key found))
  | .disposed _ => True

def Justified (lifetimes : Key → Option Lifetime) (events : Ledger Instance) : Prop :=
  ∀ before event later, events = before ++ event :: later → Follows lifetimes before event

theorem Justified.nil : Justified lifetimes ([] : Ledger Instance) := by
  intro before event later same
  simp at same

theorem Justified.of_append {first second : Ledger Instance}
    (justified : Justified lifetimes (first ++ second)) : Justified lifetimes first := by
  rintro before event later rfl
  exact justified before event (later ++ second) (by simp)

theorem Justified.concat {events : Ledger Instance} {event : Event Instance}
    (justified : Justified lifetimes events) (follows : Follows lifetimes events event) :
    Justified lifetimes (events ++ [event]) := by
  intro before other later same
  rcases List.eq_nil_or_concat later with rfl | ⟨rest, last, rfl⟩
  · obtain ⟨rfl, rfl⟩ := List.append_singleton_inj.mp same
    exact follows
  · rw [List.concat_eq_append, ← List.cons_append, ← List.append_assoc,
      List.append_singleton_inj] at same
    exact justified before other rest same.1

theorem Follows.of_made {events : Ledger Instance} {handle : Handle} {key : Key}
    {lifetime : Lifetime} {made : Instance} (named : lifetimes key = some lifetime)
    (home : lifetime.home handle = handle) :
    Follows lifetimes (events ++ [.made handle key made]) (.resolved handle key made) := by
  refine ⟨lifetime, named, fun _ => ?_, fun _ => ?_⟩
  · rw [home, holding_concat, after, if_pos ⟨rfl, rfl⟩]
  · rw [home, List.getLast?_concat]

theorem Follows.mono {known : Key → Option Lifetime} {events : Ledger Instance}
    {event : Event Instance} (follows : Follows lifetimes events event)
    (grown : ∀ key lifetime, lifetimes key = some lifetime → known key = some lifetime) :
    Follows known events event := by
  cases event with
  | made handle key made =>
      obtain ⟨lifetime, named, rest⟩ := follows
      exact ⟨lifetime, grown key lifetime named, rest⟩
  | resolved handle key found =>
      obtain ⟨lifetime, named, rest⟩ := follows
      exact ⟨lifetime, grown key lifetime named, rest⟩
  | disposed handle => trivial

theorem Justified.mono {known : Key → Option Lifetime} {events : Ledger Instance}
    (justified : Justified lifetimes events)
    (grown : ∀ key lifetime, lifetimes key = some lifetime → known key = some lifetime) :
    Justified known events := by
  intro before event later split
  exact (justified before event later split).mono grown

section

variable {key : Key} {lifetime : Lifetime} {events : Ledger Instance}

/-- Where nothing can be made nothing lives. -/
theorem Justified.holding_eq_none {handle : Handle} (justified : Justified lifetimes events)
    (impossible : ∀ lifetime, lifetimes key = some lifetime → lifetime.home handle ≠ handle) :
    holding handle key events = none := by
  cases held : holding handle key events with
  | none => rfl
  | some found =>
      obtain ⟨before, later, rfl⟩ := List.append_of_mem (mem_of_holding held)
      obtain ⟨lifetime, named, home, -⟩ := justified _ _ _ rfl
      exact absurd home (impossible lifetime named)

theorem Justified.made_follows {before later : Ledger Instance} {handle : Handle}
    {made : Instance}
    (justified : Justified lifetimes (before ++ .made handle key made :: later))
    (named : lifetimes key = some lifetime) :
    lifetime.home handle = handle ∧
      (lifetime.Keeps handle → holding handle key before = none) := by
  obtain ⟨own, ownNamed, home, free, -⟩ := justified _ _ _ rfl
  obtain rfl : own = lifetime := by simpa [named] using ownNamed.symm
  exact ⟨home, free⟩

theorem Justified.resolved_follows {before later : Ledger Instance} {handle : Handle}
    {found : Instance}
    (justified : Justified lifetimes (before ++ .resolved handle key found :: later))
    (named : lifetimes key = some lifetime) :
    (lifetime.Keeps (lifetime.home handle) →
      holding (lifetime.home handle) key before = some found) ∧
    (¬ lifetime.Keeps (lifetime.home handle) →
      before.getLast? = some (.made (lifetime.home handle) key found)) := by
  obtain ⟨own, ownNamed, kept, fresh⟩ := justified _ _ _ rfl
  obtain rfl : own = lifetime := by simpa [named] using ownNamed.symm
  exact ⟨kept, fresh⟩

/-- What lives on a container that keeps it stays until the container is disposed of. -/
theorem Justified.holding_append {handle : Handle} {first second : Ledger Instance}
    {found : Instance} (justified : Justified lifetimes (first ++ second))
    (named : lifetimes key = some lifetime) (keeps : lifetime.Keeps handle)
    (held : holding handle key first = some found) (undisturbed : .disposed handle ∉ second) :
    holding handle key (first ++ second) = some found := by
  induction second generalizing first with
  | nil => simpa using held
  | cons event rest induction =>
      rw [List.mem_cons, not_or] at undisturbed
      have still : holding handle key (first ++ [event]) = some found := by
        rw [holding_concat]
        cases event with
        | made other name made =>
            have elsewhere : ¬ (other = handle ∧ name = key) := by
              rintro ⟨rfl, rfl⟩
              simp [(justified.made_follows named).2 keeps] at held
            rw [after, if_neg elsewhere, held]
        | resolved other name made => exact held
        | disposed other =>
            have elsewhere : other ≠ handle := by
              rintro rfl
              exact undisturbed.1 rfl
            rw [after, if_neg elsewhere, held]
      rw [List.append_cons] at justified ⊢
      exact induction justified still undisturbed.2

/-- An instance is made once: what is made later is another one. -/
theorem Justified.made_apart {first second : Ledger Instance} {handle other : Handle}
    {name : Key} {made again : Instance} (justified : Justified lifetimes (first ++ second))
    (early : .made handle key made ∈ first) (late : .made other name again ∈ second) :
    made ≠ again := by
  rintro rfl
  obtain ⟨start, rest, rfl⟩ := List.append_of_mem late
  rw [← List.append_assoc] at justified
  obtain ⟨_, -, -, -, new⟩ := justified _ _ _ rfl
  exact new (mem_instances_iff.mpr ⟨handle, key, List.mem_append_left _ early⟩)

theorem Justified.made_unique {handle other : Handle} {name : Key} {made : Instance}
    (justified : Justified lifetimes events) (member : .made handle key made ∈ events)
    (otherMember : .made other name made ∈ events) : handle = other ∧ key = name := by
  obtain ⟨before, later, rfl⟩ := List.append_of_mem member
  simp only [List.mem_append, List.mem_cons, Event.made.injEq] at otherMember
  rcases otherMember with earlier | ⟨rfl, rfl, -⟩ | behind
  · exact absurd rfl (justified.made_apart earlier List.mem_cons_self)
  · exact ⟨rfl, rfl⟩
  · rw [List.append_cons] at justified
    exact absurd rfl (justified.made_apart (List.mem_append_right _ (List.mem_singleton_self _))
      behind)

/-- What is handed out was made before, where it belongs. -/
theorem Justified.made_of_resolved {before later : Ledger Instance} {handle : Handle}
    {found : Instance}
    (justified : Justified lifetimes (before ++ .resolved handle key found :: later))
    (named : lifetimes key = some lifetime) : .made (lifetime.home handle) key found ∈ before := by
  obtain ⟨kept, fresh⟩ := justified.resolved_follows named
  by_cases keeps : lifetime.Keeps (lifetime.home handle)
  · exact mem_of_holding (kept keeps)
  · exact List.mem_of_getLast? (fresh keeps)

/-! ### When an instance comes again -/

/-- What a lifetime says of two times that a service is resolved: it comes to one and the
same instance. -/
def Shares (lifetime : Lifetime) (first second : Handle) (between : Ledger Instance) : Prop :=
  match lifetime with
  | .transient => False
  | .singleton => .disposed Handle.root ∉ between
  | .perScope => first = second ∧ first ≠ Handle.root ∧ .disposed first ∉ between

theorem shares_iff {first second : Handle} {between : Ledger Instance} :
    Shares lifetime first second between ↔
      lifetime.Keeps (lifetime.home second) ∧ lifetime.home first = lifetime.home second ∧
        .disposed (lifetime.home second) ∉ between := by
  cases lifetime with
  | transient => simp [Shares, Lifetime.Keeps]
  | singleton => simp [Shares, Lifetime.Keeps, Lifetime.home]
  | perScope =>
      simp only [Shares, Lifetime.Keeps, Lifetime.home]
      constructor
      · rintro ⟨rfl, inScope, undisturbed⟩
        exact ⟨inScope, rfl, undisturbed⟩
      · rintro ⟨inScope, rfl, undisturbed⟩
        exact ⟨rfl, inScope, undisturbed⟩

/-- A service comes to the same instance twice just when its lifetime says so. -/
theorem Justified.resolved_eq_iff {before between later : Ledger Instance}
    {first second : Handle} {found again : Instance}
    (justified : Justified lifetimes (before ++ .resolved first key found ::
      (between ++ .resolved second key again :: later)))
    (named : lifetimes key = some lifetime) :
    found = again ↔ Shares lifetime first second between := by
  have foundMade := justified.made_of_resolved named
  have foundKept := (justified.resolved_follows named).1
  rw [List.append_cons, ← List.append_assoc] at justified
  have againMade := justified.made_of_resolved named
  obtain ⟨kept, fresh⟩ := justified.resolved_follows named
  have earlier := justified.of_append
  have apart (behind : .made (lifetime.home second) key again ∈ between) : found ≠ again :=
    earlier.made_apart (List.mem_append_left _ foundMade) behind
  rw [shares_iff]
  constructor
  · rintro rfl
    have notBehind : .made (lifetime.home second) key found ∉ between :=
      fun behind => apart behind rfl
    have foundStill := List.mem_append_left between
      (List.mem_append_left [.resolved first key found] foundMade)
    have sameHome := (earlier.made_unique foundStill againMade).1
    -- What lives there at the second time was made behind the first, or lived there then.
    by_cases keeps : lifetime.Keeps (lifetime.home second)
    · rcases holding_append_cases (kept keeps) with behind | ⟨-, undisturbed⟩
      · exact absurd behind notBehind
      · exact ⟨keeps, sameHome, undisturbed⟩
    · have lastMade := fresh keeps
      rcases List.eq_nil_or_concat between with rfl | ⟨start, last, rfl⟩
      · simp at lastMade
      · rw [List.concat_eq_append, ← List.append_assoc, List.getLast?_concat,
          Option.some.injEq] at lastMade
        exact absurd (by simp [lastMade]) notBehind
  · rintro ⟨keeps, sameHome, undisturbed⟩
    have held : holding (lifetime.home second) key (before ++ [.resolved first key found]) =
        some found := by
      rw [holding_concat, after, ← sameHome]
      exact foundKept (sameHome ▸ keeps)
    have still := earlier.holding_append named keeps held undisturbed
    exact Option.some.inj (still.symm.trans (kept keeps))

/-- The factory of a singleton comes to an instance once between two disposals of the
root. -/
theorem Justified.disposed_between {before between later : Ledger Instance}
    {first second : Handle} {made again : Instance}
    (justified : Justified lifetimes (before ++ .made first key made ::
      (between ++ .made second key again :: later)))
    (single : lifetimes key = some .singleton) : .disposed Handle.root ∈ between := by
  obtain rfl : Handle.root = first := (justified.made_follows single).1
  rw [List.append_cons, ← List.append_assoc] at justified
  obtain ⟨sameHome, free⟩ := justified.made_follows single
  obtain rfl : Handle.root = second := sameHome
  apply Classical.byContradiction
  intro undisturbed
  have held : holding Handle.root key (before ++ [.made Handle.root key made]) = some made := by
    simp [holding_concat, after]
  have still := justified.of_append.holding_append single trivial held undisturbed
  rw [free trivial] at still
  simp at still

end

end Ledger

end PageComposer.Service
