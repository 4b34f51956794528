import PageComposer.Proofs.Service.Keeping

/-!
# Lifetimes of instances

`Family.History` is what a root can go through on which each service is registered once,
before there are scopes: resolutions, scopes and disposals, in any order and on any of its
containers.  Every step keeps what the ledger says, so that `Family.History.lifetimes` can
say when a service comes to the same instance twice.
-/

namespace PageComposer.Service.Family

section

variable {World Instance : Type} {clock : Clock World Instance} {events : Ledger Instance}
  {family after : Family World Instance} {handle : Handle} {id : Identifier} {key : Key}
  {lifetime : Lifetime}

/-! ### Histories -/

/-- What a root can go through on which each service is registered once, before there are
scopes: its ledger and what it has become. -/
inductive History (clock : Clock World Instance) :
    Ledger Instance → Family World Instance → Prop where
  | start {world : World} : History clock [] (.start world)
  | register {events : Ledger Instance} {family after : Family World Instance}
      {id : Identifier} {factory : Factory World Instance} {lifetime : Lifetime}
      {metadata : Fields} (history : History clock events family) (noScopes : family.size = 1)
      (new : family.isRegistered Handle.root id = false) (fresh : factory.Fresh clock)
      (registered : family.register Handle.root id factory lifetime metadata = .ok after) :
      History clock events after
  | resolve {events : Ledger Instance} {family : Family World Instance} {handle : Handle}
      {id : Identifier} {trace : List (Event Instance)} (history : History clock events family)
      (there : handle < family.size)
      (runs : Runs (family.depth handle) handle (.resolve id) family trace
        (family.resolve handle id).1 (family.resolve handle id).2) :
      History clock (events ++ trace) (family.resolve handle id).2
  | createScope {events : Ledger Instance} {family : Family World Instance} {handle : Handle}
      (history : History clock events family) (there : handle < family.size) :
      History clock events (family.createScope handle).2
  | dispose {events : Ledger Instance} {family : Family World Instance} {handle : Handle}
      (history : History clock events family) (there : handle < family.size) :
      History clock (events ++ [.disposed handle]) (family.dispose handle)

theorem Keeping.start (world : World) : Keeping clock [] (.start world) where
  justified := .nil
  rooted := Nat.one_pos
  registrations _ _ := rfl
  fresh _ _ found := by simp [Family.start, Container.empty, Table.get?] at found
  held _ _ _ _ named := by
    simp [lifetimeOf, Family.start, Container.empty, Table.get?] at named
  bare _ _ _ _ lifetime := by
    cases lifetime <;> simp [kept?, Family.start, Container.empty, Table.get?]
  counted _ member := by simp [Ledger.instances] at member
  placed _ _ _ member := by simp at member
  creating _ _ _ inside := by simp [IsCreating, Family.start, Container.empty] at inside

theorem Keeping.register {factory : Factory World Instance} {metadata : Fields}
    (keeping : Keeping clock events family) (noScopes : family.size = 1)
    (new : family.isRegistered Handle.root id = false) (fresh : factory.Fresh clock)
    (registered : family.register Handle.root id factory lifetime metadata = .ok after) :
    Keeping clock events after := by
  obtain ⟨key, sameKey, rfl⟩ := register_ok registered
  have unnamed : family.lifetimeOf key = none := by
    rw [isRegistered, Container.find?, sameKey] at new
    rw [lifetimeOf, Option.map_eq_none_iff]
    simpa using new
  have unborn : Ledger.holding Handle.root key events = none :=
    keeping.justified.holding_eq_none fun lifetime named => by simp [unnamed] at named
  have onlyRoot (handle : Handle) (there : handle < family.size) : handle = Handle.root := by
    rw [noScopes] at there
    exact Nat.lt_one_iff.mp there
  exact {
    justified := by
      refine keeping.justified.mono fun name next named => ?_
      rw [lifetimeOf_withRegistration, if_neg, named]
      rintro rfl
      simp [unnamed] at named
    rooted := keeping.rooted
    registrations := by
      intro handle there
      rw [onlyRoot handle there]
    fresh := by
      intro name registration found
      simp only [withRegistration, modify, if_true, Table.get?_insert] at found
      split at found
      · obtain rfl := Option.some.inj found
        exact fresh
      · exact keeping.fresh name registration found
    held := by
      intro handle there name next named home keeps
      rw [kept?_withRegistration]
      rw [lifetimeOf_withRegistration] at named
      split at named
      · rename_i same
        subst same
        rw [onlyRoot handle there, unborn]
        exact keeping.bare Handle.root keeping.rooted key unnamed next
      · exact keeping.held handle there name next named home keeps
    bare := by
      intro handle there name notNamed next
      rw [kept?_withRegistration]
      rw [lifetimeOf_withRegistration] at notNamed
      split at notNamed
      · simp at notNamed
      · exact keeping.bare handle there name notNamed next
    counted := keeping.counted
    placed := keeping.placed
    creating := by
      intro handle there name inside next named keeps
      rw [isCreating_withRegistration] at inside
      rw [lifetimeOf_withRegistration] at named
      split at named
      · rename_i same
        subst same
        rw [onlyRoot handle there, unborn]
      · exact keeping.creating handle there name inside next named keeps }

theorem Keeping.createScope (keeping : Keeping clock events family)
    (there : handle < family.size) : Keeping clock events (family.createScope handle).2 := by
  have root : (family.createScope handle).2.container Handle.root = _ :=
    container_createScope_of_lt keeping.rooted
  have lifetimes := lifetimeOf_congr (congrArg Container.registrations root)
  have unborn (name : Key) : Ledger.holding family.size name events = none := by
    cases held : Ledger.holding family.size name events with
    | none => rfl
    | some made =>
        exact absurd (keeping.placed _ _ _ (Ledger.mem_of_holding held)) (Nat.lt_irrefl _)
  have empty (next : Lifetime) (name : Key) :
      (family.createScope handle).2.kept? family.size next name = none :=
    kept?_of_empty (by rw [container_createScope_self]) (by rw [container_createScope_self])
  have old (other : Handle) (before : other < family.size) (next : Lifetime) (name : Key) :
      (family.createScope handle).2.kept? other next name = family.kept? other next name :=
    kept?_congr (by rw [container_createScope_of_lt before])
      (by rw [container_createScope_of_lt before])
  exact {
    justified := lifetimes ▸ keeping.justified
    rooted := Nat.succ_pos _
    registrations := by
      intro other otherThere
      rw [root]
      rcases Nat.lt_succ_iff_lt_or_eq.mp otherThere with before | rfl
      · rw [container_createScope_of_lt before]
        exact keeping.registrations other before
      · rw [container_createScope_self]
        exact keeping.registrations handle there
    fresh := by
      intro name registration found
      rw [root] at found
      exact keeping.fresh name registration found
    held := by
      intro other otherThere name next named home keeps
      rw [lifetimes] at named
      rcases Nat.lt_succ_iff_lt_or_eq.mp otherThere with before | rfl
      · rw [old other before]
        exact keeping.held other before name next named home keeps
      · rw [unborn, empty]
    bare := by
      intro other otherThere name unnamed next
      rw [lifetimes] at unnamed
      rcases Nat.lt_succ_iff_lt_or_eq.mp otherThere with before | rfl
      · rw [old other before]
        exact keeping.bare other before name unnamed next
      · exact empty next name
    counted := keeping.counted
    placed := fun other name made member =>
      Nat.lt_succ_of_lt (keeping.placed other name made member)
    creating := by
      intro other otherThere name inside next named keeps
      rw [lifetimes] at named
      rcases Nat.lt_succ_iff_lt_or_eq.mp otherThere with before | rfl
      · rw [IsCreating, container_createScope_of_lt before] at inside
        exact keeping.creating other before name inside next named keeps
      · exact unborn name }

/-- Disposers do not turn the clock back. -/
theorem now_release {container : Container World Instance}
    (fresh : ∀ key registration, Table.get? container.registrations key = some registration →
      registration.factory.Fresh clock) (table : Table Instance) (world : World) :
    clock.now world ≤ clock.now (release container table world) := by
  induction table generalizing world with
  | nil => exact Nat.le.refl
  | cons entry rest induction =>
      obtain ⟨key, made⟩ := entry
      rw [release]
      split
      · exact induction world
      · rename_i registration found
        exact Nat.le_trans ((fresh key registration found).disposes made world) (induction _)

theorem Keeping.dispose (keeping : Keeping clock events family) (there : handle < family.size) :
    Keeping clock (events ++ [.disposed handle]) (family.dispose handle) := by
  have same (other : Handle) : ((family.dispose handle).container other).registrations =
      (family.container other).registrations := by
    by_cases here : other = handle
    · rw [here, container_dispose_self]
    · rw [container_dispose_of_ne here]
  have lifetimes := lifetimeOf_congr (same Handle.root)
  have empty (next : Lifetime) (name : Key) :
      (family.dispose handle).kept? handle next name = none :=
    kept?_of_empty (by rw [container_dispose_self]) (by rw [container_dispose_self])
  have old (other : Handle) (elsewhere : other ≠ handle) (next : Lifetime) (name : Key) :
      (family.dispose handle).kept? other next name = family.kept? other next name :=
    kept?_congr (by rw [container_dispose_of_ne elsewhere])
      (by rw [container_dispose_of_ne elsewhere])
  have gone (name : Key) : Ledger.holding handle name (events ++ [.disposed handle]) = none := by
    simp [Ledger.holding_concat, Ledger.after]
  have stays (other : Handle) (elsewhere : other ≠ handle) (name : Key) :
      Ledger.holding other name (events ++ [.disposed handle]) =
        Ledger.holding other name events := by
    rw [Ledger.holding_concat, Ledger.after, if_neg (Ne.symm elsewhere)]
  exact {
    justified := lifetimes ▸ keeping.justified.concat trivial
    rooted := keeping.rooted
    registrations := by
      intro other otherThere
      rw [same, same]
      exact keeping.registrations other otherThere
    fresh := by
      intro name registration found
      rw [same] at found
      exact keeping.fresh name registration found
    held := by
      intro other otherThere name next named home keeps
      rw [lifetimes] at named
      by_cases here : other = handle
      · rw [here, gone, empty]
      · rw [stays other here, old other here]
        exact keeping.held other otherThere name next named home keeps
    bare := by
      intro other otherThere name unnamed next
      rw [lifetimes] at unnamed
      by_cases here : other = handle
      · rw [here, empty]
      · rw [old other here]
        exact keeping.bare other otherThere name unnamed next
    counted := by
      intro made member
      have before : made ∈ events.instances := by
        simpa [Ledger.instances_append, Ledger.instances] using member
      refine Nat.lt_of_lt_of_le (keeping.counted made before) (now_release ?_ _ _)
      intro name registration found
      rw [keeping.registrations handle there] at found
      exact keeping.fresh name registration found
    placed := by
      intro other name made member
      exact keeping.placed other name made (by simpa using member)
    creating := by
      intro other otherThere name inside next named keeps
      rw [lifetimes] at named
      by_cases here : other = handle
      · subst here
        exact gone name
      · rw [stays other here]
        rw [IsCreating, container_dispose_of_ne here] at inside
        exact keeping.creating other otherThere name inside next named keeps }

theorem History.keeping (history : History clock events family) :
    Keeping clock events family := by
  induction history with
  | start => exact .start _
  | register _ noScopes new fresh registered keeping =>
      exact keeping.register noScopes new fresh registered
  | resolve _ there runs keeping => exact (runs.keeping keeping there trivial).1
  | createScope _ there keeping => exact keeping.createScope there
  | dispose _ there keeping => exact keeping.dispose there

/-- Whatever is resolved, the history goes on, and what came is noted last. -/
theorem History.exists_resolve (history : History clock events family)
    (there : handle < family.size) (id : Identifier) :
    ∃ trace, History clock (events ++ trace) (family.resolve handle id).2 ∧
      ∀ key found, id.key = some key → (family.resolve handle id).1 = .ok found →
        ∃ before, trace = before ++ [.resolved handle key found] := by
  obtain ⟨trace, runs⟩ := runs_resolveAt (family.depth handle) handle id family
  refine ⟨trace, .resolve history there runs, ?_⟩
  intro key found named came
  rw [← Family.resolve, came] at runs
  exact runs.noted named

/-- In any history two resolutions of a service come to the same instance just when its
lifetime says so, and the factory of a singleton comes to an instance once between two
disposals of the root. -/
theorem History.lifetimes (history : History clock events family)
    (named : family.lifetimeOf key = some lifetime) :
    (∀ before first found between second again later,
      events = before ++ .resolved first key found ::
        (between ++ .resolved second key again :: later) →
      (found = again ↔ Ledger.Shares lifetime first second between)) ∧
    (lifetime = .singleton → ∀ before first made between second again later,
      events = before ++ .made first key made ::
        (between ++ .made second key again :: later) →
      .disposed Handle.root ∈ between) := by
  constructor
  · rintro before first found between second again later rfl
    exact history.keeping.justified.resolved_eq_iff named
  · rintro rfl before first made between second again later rfl
    exact history.keeping.justified.disposed_between named

end

/-! ### A history -/

/-- A world that counts what was built in it, and instances with their numbers. -/
def counting : Clock Nat Nat := ⟨id, id⟩

def countingFactory : Factory Nat Nat :=
  .ofRecipe (.read fun count => .write (count + 1) (.give count))

theorem countingFactory_fresh : countingFactory.Fresh counting where
  builds world := ⟨Nat.le_succ world, Nat.le.refl, Nat.lt_succ_self world⟩
  disposes _ _ := Nat.le.refl

def settings : Identifier := .ofText "settings"

def visit : Identifier := .ofText "visit"

def stamp : Identifier := .ofText "stamp"

/-- A service of each lifetime on the root. -/
def staffedRoot : Family Nat Nat :=
  (((Family.start 0).withRegistration Handle.root (.text "settings")
      ⟨countingFactory, .singleton, [], 0⟩).withRegistration Handle.root (.text "visit")
        ⟨countingFactory, .perScope, [], 1⟩).withRegistration Handle.root (.text "stamp")
          ⟨countingFactory, .transient, [], 2⟩

/-- The singleton is resolved on the root, and on a scope each of the services; then the root
is disposed of and the scope asks for all of them once more. -/
def staffedSteps : List (Handle × Identifier) :=
  [(1, settings), (1, visit), (1, stamp)]

def resolveAll (steps : List (Handle × Identifier)) (family : Family Nat Nat) : Family Nat Nat :=
  steps.foldl (fun family step => (family.resolve step.1 step.2).2) family

def staffedScope : Family Nat Nat :=
  ((staffedRoot.resolve Handle.root settings).2.createScope Handle.root).2

def staffedAgain : Family Nat Nat :=
  resolveAll staffedSteps ((resolveAll staffedSteps staffedScope).dispose Handle.root)

def staffedLedger : Ledger Nat :=
  [.made 0 (.text "settings") 0, .resolved 0 (.text "settings") 0,
    .resolved 0 (.text "settings") 0, .resolved 1 (.text "settings") 0,
    .made 1 (.text "visit") 1, .resolved 1 (.text "visit") 1,
    .made 1 (.text "stamp") 2, .resolved 1 (.text "stamp") 2,
    .disposed 0,
    .made 0 (.text "settings") 3, .resolved 0 (.text "settings") 3,
    .resolved 1 (.text "settings") 3,
    .resolved 1 (.text "visit") 1,
    .made 1 (.text "stamp") 4, .resolved 1 (.text "stamp") 4]

theorem history_staffed : History counting staffedLedger staffedAgain := by
  have idle (family : Family Nat Nat) (handle : Handle) (key : Key)
      (none : (family.container handle).creating = []) : ¬ family.IsCreating handle key := by
    simp [IsCreating, none]
  have cooked (depth : Nat) (handle : Handle) (family : Family Nat Nat) :
      Runs depth handle (.cook countingFactory.create) family [] (.ok family.world)
        { family with world := family.world + 1 } := .read (.write .give)
  have shared (family : Family Nat Nat)
      (found : (family.container Handle.root).find? settings =
        some ⟨countingFactory, .singleton, [], 0⟩) :
      family.Serves Handle.root settings (.text "settings")
        ⟨countingFactory, .singleton, [], 0⟩ := ⟨rfl, found, by simp [inherits]⟩
  have inScope (family : Family Nat Nat)
      (found : (family.container 1).find? visit = some ⟨countingFactory, .perScope, [], 1⟩) :
      family.Serves 1 visit (.text "visit") ⟨countingFactory, .perScope, [], 1⟩ :=
    ⟨rfl, found, by simp⟩
  have anew (family : Family Nat Nat)
      (found : (family.container 1).find? stamp = some ⟨countingFactory, .transient, [], 2⟩) :
      family.Serves 1 stamp (.text "stamp") ⟨countingFactory, .transient, [], 2⟩ :=
    ⟨rfl, found, by simp⟩
  have staffed : History counting [] staffedRoot :=
    .register (.register (.register .start rfl rfl countingFactory_fresh
      (show (Family.start 0).register Handle.root settings countingFactory .singleton [] =
        .ok _ from rfl)) rfl rfl countingFactory_fresh
      (show Family.register _ Handle.root visit countingFactory .perScope [] =
        .ok _ from rfl)) rfl rfl countingFactory_fresh
      (show Family.register _ Handle.root stamp countingFactory .transient [] =
        .ok staffedRoot from rfl)
  have opened : History counting _ staffedScope :=
    .createScope (.resolve staffed Nat.one_pos
      (.made (shared _ rfl) (idle _ _ _ rfl) rfl (cooked 7 _ _))) Nat.one_pos
  have there {family : Family Nat Nat} (two : family.size = 2) : 1 < family.size := by omega
  have first : History counting _ (resolveAll staffedSteps staffedScope) :=
    .resolve (.resolve (.resolve opened (there rfl)
      (.delegated rfl rfl rfl rfl (.kept (shared _ rfl) (idle _ _ _ rfl) rfl))) (there rfl)
      (.made (inScope _ rfl) (idle _ _ _ rfl) rfl (cooked 7 _ _))) (there rfl)
      (.made (anew _ rfl) (idle _ _ _ rfl) rfl (cooked 7 _ _))
  have second : History counting _ staffedAgain :=
    .resolve (.resolve (.resolve (.dispose first (Nat.succ_pos 1)) (there rfl)
      (.delegated rfl rfl rfl rfl
        (.made (shared _ rfl) (idle _ _ _ rfl) rfl (cooked 6 _ _)))) (there rfl)
      (.kept (inScope _ rfl) (idle _ _ _ rfl) rfl)) (there rfl)
      (.made (anew _ rfl) (idle _ _ _ rfl) rfl (cooked 7 _ _))
  exact second

/-- The scope comes to the root's instance of a singleton, and to another one once the root was
disposed of; to one instance of its own of a scoped service, before and after; and to another
instance of a transient service each time. -/
theorem lifetimes_staffed :
    staffedAgain.lifetimeOf (.text "settings") = some .singleton ∧
      staffedAgain.lifetimeOf (.text "visit") = some .perScope ∧
      staffedAgain.lifetimeOf (.text "stamp") = some .transient ∧
      ((0 : Nat) = 0 ↔ Ledger.Shares .singleton Handle.root 1
        [.resolved Handle.root (.text "settings") 0]) ∧
      ((0 : Nat) = 3 ↔ Ledger.Shares .singleton 1 1 ((staffedLedger.drop 4).take 7)) ∧
      ((1 : Nat) = 1 ↔ Ledger.Shares .perScope 1 1 ((staffedLedger.drop 6).take 6)) ∧
      ((2 : Nat) = 4 ↔ Ledger.Shares .transient 1 1 ((staffedLedger.drop 8).take 6)) ∧
      .disposed Handle.root ∈ (staffedLedger.drop 1).take 8 := by
  have single : staffedAgain.lifetimeOf (.text "settings") = some .singleton := rfl
  have perScope : staffedAgain.lifetimeOf (.text "visit") = some .perScope := rfl
  have transient : staffedAgain.lifetimeOf (.text "stamp") = some .transient := rfl
  obtain ⟨shares, once⟩ := History.lifetimes history_staffed single
  obtain ⟨keeps, -⟩ := History.lifetimes history_staffed perScope
  obtain ⟨renews, -⟩ := History.lifetimes history_staffed transient
  exact ⟨single, perScope, transient,
    shares (staffedLedger.take 1) _ _ _ _ _ _ rfl,
    shares (staffedLedger.take 3) _ _ _ _ _ (staffedLedger.drop 12) rfl,
    keeps (staffedLedger.take 5) _ _ _ _ _ (staffedLedger.drop 13) rfl,
    renews (staffedLedger.take 7) _ _ _ _ _ [] rfl,
    once rfl [] _ _ _ _ _ (staffedLedger.drop 10) rfl⟩

end PageComposer.Service.Family
