import PageComposer.Proofs.Registry.Bystanders
import PageComposer.Proofs.Renderer.Walks

/-!
# Allowlists that change during a walk

The renderer asks the allowlist once for each node, so others who replace the allowlist in
the meantime let a walk see several.  `Walks.permitted` says what is left: the type of each
node is permitted by an allowlist that was in force when the node was entered.

That one allowlist permits all types does not follow.  `oneAllowlist_iff` says of which
allowlists it does, whatever tree is rendered and wherever the replacements fall: of those
among which one permits all that the others do, and of those that begin with one that
permits nothing, since nothing is rendered then.
-/

namespace PageComposer.Renderer

def Permits (allowlist : Allowlist) (type : Value) : Prop :=
  ∀ ids, allowlist = some ids → ∃ id ∈ ids, type = .str id

@[simp] theorem permits_none (type : Value) : Permits none type := nofun

@[simp] theorem permits_some {ids : List String} {id : String} :
    Permits (some ids) (.str id) ↔ id ∈ ids := by
  simp [Permits]

theorem isAllowed_iff {registry : Registry} {type : Value} :
    registry.isAllowed type = .ok true ↔ Permits registry.allowlist type := by
  cases allowlist : registry.allowlist with
  | none => simp [Registry.isAllowed, allowlist, Permits]
  | some ids =>
      cases type <;> simp [Registry.isAllowed, allowlist, Permits, Value.asKey, Value.canBeKey,
        bind, Except.bind, pure, Except.pure]

/-- A node that is entered has a type that is permitted and registered. -/
theorem admission_ok {registry : Registry} {type params : Value}
    {body : RenderArgs → RenderBody} (admitted : admission registry type params = .ok body) :
    Permits registry.allowlist type ∧
      ∃ id registration, type = .str id ∧ registry.find? id = some registration ∧
        registration.plugin.body = some body := by
  obtain ⟨allowed, -, registered⟩ := admission_ok_iff.mp admitted
  exact ⟨isAllowed_iff.mp allowed, registered⟩

/-! ### What is in force -/

def changes (trace : List Moment) : List Allowlist :=
  trace.filterMap fun
    | .changed allowlist => some allowlist
    | .asked .. => none

@[simp] theorem changes_nil : changes [] = [] := rfl

@[simp] theorem changes_asked (allowlist : Allowlist) (type : Value) (trace : List Moment) :
    changes (.asked allowlist type :: trace) = changes trace := rfl

@[simp] theorem changes_append (first second : List Moment) :
    changes (first ++ second) = changes first ++ changes second := by
  simp [changes]

@[simp] theorem changes_changed (allowlists : List Allowlist) :
    changes (allowlists.map .changed) = allowlists := by
  rw [changes, List.filterMap_map]
  exact List.filterMap_some

section

variable {audience : Audience} {context : RenderContext} {items : List Value}
  {session after : Session} {trace : List Moment} {outcome : Outcome String}

/-- What is in force after a walk was in force before it or was put in force by it. -/
theorem Walks.allowlistOf_mem (walks : Walks audience context items session trace outcome after) :
    allowlistOf after ∈ allowlistOf session :: changes trace := by
  induction walks with
  | done | notObject _ | refused _ _ | misshapen _ _ _ => simp
  | failedBelow _ _ _ _ below => simpa using below
  | @failedLeaving fields rest children session between after type body inner markup result
      fault _ _ _ _ played _ below =>
      have left := allowlistOf_play_mem audience
        (body ⟨fields, paramsOf fields, markup, context⟩) between
      rw [played] at left
      simp only [List.mem_cons, changes_asked, changes_append, changes_changed,
        List.mem_append] at below left ⊢
      rcases left with same | changed
      · rw [same]
        exact below.imp id .inl
      · exact .inr (.inr changed)
  | @left fields rest children session between after last type body inner later markup own result
      outcome _ _ _ _ played _ _ below others =>
      have left := allowlistOf_play_mem audience
        (body ⟨fields, paramsOf fields, markup, context⟩) between
      rw [played] at left
      simp only [List.mem_cons, changes_asked, changes_append, changes_changed,
        List.mem_append] at below left others ⊢
      rcases others with same | changed
      · rw [same]
        rcases left with same | changed
        · rw [same]
          exact below.imp id fun inside => .inl (.inl inside)
        · exact .inr (.inl (.inr changed))
      · exact .inr (.inr changed)

/-- The first node is entered before anything is changed. -/
theorem Walks.permits_first {item : Value} {rest : List Value} {text : String}
    (walks : Walks audience context (item :: rest) session trace (.ok text) after) :
    Permits (allowlistOf session) item.typeOf := by
  generalize came : (.ok text : Outcome String) = outcome at walks
  cases walks with
  | left named admitted _ _ _ _ _ => exact named ▸ (admission_ok admitted).1
  | _ => simp at came

/-- A walk that comes to a text has entered every node while an allowlist was in force that
permits the type of the node. -/
theorem Walks.permitted (walks : Walks audience context items session trace outcome after) :
    ∀ {text : String}, outcome = .ok text → ∀ root ∈ items, ∀ node ∈ root.nodes,
      ∃ allowlist ∈ allowlistOf session :: changes trace, Permits allowlist node.typeOf := by
  induction walks with
  | done => simp
  | notObject _ | refused _ _ | misshapen _ _ _ | failedBelow _ _ _ _ _
  | failedLeaving _ _ _ _ _ _ _ =>
      intro text same
      simp at same
  | @left fields rest children session between after last type body inner later markup own result
      outcome named admitted shaped walked played _ _ below others =>
      intro text same root member node inside
      obtain rfl := childItems_eq_childNodes shaped
      have enters := walked.allowlistOf_mem
      have leaves := allowlistOf_play_mem audience
        (body ⟨fields, paramsOf fields, markup, context⟩) between
      rw [played] at leaves
      simp only [List.mem_cons, changes_asked, changes_append, changes_changed,
        List.mem_append] at enters leaves ⊢
      rcases List.mem_cons.mp member with rfl | inRest
      · rcases Value.mem_nodes_iff.mp inside with rfl | ⟨child, isChild, deeper⟩
        · exact ⟨allowlistOf session, .inl rfl, named ▸ (admission_ok admitted).1⟩
        · obtain ⟨allowlist, inForce, permits⟩ := below rfl child isChild node deeper
          refine ⟨allowlist, ?_, permits⟩
          rcases List.mem_cons.mp inForce with first | changed
          · exact .inl first
          · exact .inr (.inl (.inl changed))
      · cases outcome with
        | error fault => simp [Except.map] at same
        | ok onward =>
            -- The next nodes are entered with what this node has left in force.
            obtain ⟨allowlist, inForce, permits⟩ := others rfl root inRest node inside
            refine ⟨allowlist, ?_, permits⟩
            rcases List.mem_cons.mp inForce with first | changed
            · rw [first]
              rcases leaves with same | changed
              · rw [same]
                exact enters.imp id fun inside => .inl (.inl inside)
              · exact .inr (.inl (.inr changed))
            · exact .inr (.inr changed)

end

/-! ### Walks among which only the allowlist is replaced -/

/-- Those who act at the waiting points do nothing but replace the allowlist. -/
def OnlySwaps (schedule : List (List Change)) : Prop :=
  ∀ group ∈ schedule, ∀ change ∈ group, ∃ ids, change = .setAllowlist ids

theorem announce_silent (ask : Change → Hub → Outcome Unit × Hub) (event : Event) (hub : Hub) :
    Hub.announce Audience.silent.react ask event hub = hub := by
  unfold Hub.announce
  generalize hub.registry.listeners event = listeners
  induction listeners with
  | nil => rfl
  | cons listener rest induction => exact induction

/-- With nobody listening, a replacement changes the allowlist and nothing else. -/
theorem perform_silent_ok {ids : Value} {allowed : Allowlist} (hub : Hub)
    (read : Registry.allowedIds? ids = .ok allowed) :
    hub.perform .silent (.setAllowlist ids) =
      (.ok (), { hub with registry := { hub.registry with allowlist := allowed } }) := by
  have stepped : hub.perform .silent (.setAllowlist ids) =
      Hub.step Audience.silent.react (fun _ hub => (.error (.misuse .tooDeep), hub))
        (.setAllowlist ids) hub := rfl
  rw [stepped, Hub.step_setAllowlist read, announce_silent]

theorem perform_silent_registrations (ids : Value) (hub : Hub) :
    (hub.perform .silent (.setAllowlist ids)).2.registry.registrations =
      hub.registry.registrations := by
  rcases read : Registry.allowedIds? ids with fault | allowed
  · have refused : hub.registry.change (.setAllowlist ids) = .error fault :=
      Registry.change_setAllowlist_error read
    have stepped : hub.perform .silent (.setAllowlist ids) =
        Hub.step Audience.silent.react (fun _ hub => (.error (.misuse .tooDeep), hub))
          (.setAllowlist ids) hub := rfl
    rw [stepped, Hub.step_eq, refused]
  · rw [perform_silent_ok hub read]

/-- The plugins of a session are those of another, and others only replace the allowlist. -/
structure Steady (session after : Session) : Prop where
  registrations : after.hub.registry.registrations = session.hub.registry.registrations
  onlySwaps : OnlySwaps after.schedule

theorem Steady.trans {first second third : Session} (left : Steady first second)
    (right : Steady second third) : Steady first third :=
  ⟨right.registrations.trans left.registrations, right.onlySwaps⟩

theorem group_registrations {group : List Change} (hub : Hub)
    (swaps : ∀ change ∈ group, ∃ ids, change = .setAllowlist ids) :
    (group.foldl (fun hub change => (hub.perform .silent change).2) hub).registry.registrations =
      hub.registry.registrations := by
  induction group generalizing hub with
  | nil => rfl
  | cons change rest induction =>
      rw [List.forall_mem_cons] at swaps
      obtain ⟨⟨ids, rfl⟩, others⟩ := swaps
      rw [List.foldl_cons, induction _ others, perform_silent_registrations]

theorem play_steady (body : RenderBody) (session : Session)
    (swaps : OnlySwaps session.schedule) : Steady session (play .silent body session).2 := by
  induction body generalizing session with
  | give result => exact ⟨rfl, swaps⟩
  | fail fault => exact ⟨rfl, swaps⟩
  | note entry rest induction =>
      have onward := induction { session with hub := session.hub.write entry } swaps
      exact ⟨onward.registrations, onward.onlySwaps⟩
  | types rest induction => exact induction _ session swaps
  | setAllowlist ids rest induction =>
      have onward := induction (session.hub.perform .silent (.setAllowlist ids)).1
        { session with hub := (session.hub.perform .silent (.setAllowlist ids)).2 } swaps
      exact ⟨onward.registrations.trans (perform_silent_registrations ids session.hub),
        onward.onlySwaps⟩
  | pause rest induction =>
      cases scheduled : session.schedule with
      | nil =>
          rw [play_pause_nil scheduled]
          exact induction session swaps
      | cons group later =>
          rw [scheduled, OnlySwaps, List.forall_mem_cons] at swaps
          rw [play_pause_cons scheduled]
          have onward := induction {
            hub := group.foldl (fun hub change => (hub.perform .silent change).2) session.hub
            schedule := later } swaps.2
          exact ⟨onward.registrations.trans (group_registrations session.hub swaps.1),
            onward.onlySwaps⟩

section

variable {context : RenderContext} {items : List Value} {session after : Session}
  {trace : List Moment} {outcome : Outcome String}

theorem Walks.steady (walks : Walks .silent context items session trace outcome after)
    (swaps : OnlySwaps session.schedule) : Steady session after := by
  induction walks with
  | done | notObject _ | refused _ _ | misshapen _ _ _ => exact ⟨rfl, swaps⟩
  | failedBelow _ _ _ _ below => exact below swaps
  | @failedLeaving fields rest children session between after type body inner markup result
      fault _ _ _ _ played _ below =>
      have leaves := play_steady (body ⟨fields, paramsOf fields, markup, context⟩) between
        (below swaps).onlySwaps
      rw [played] at leaves
      exact (below swaps).trans leaves
  | @left fields rest children session between after last type body inner later markup own result
      outcome _ _ _ _ played _ _ below others =>
      have leaves := play_steady (body ⟨fields, paramsOf fields, markup, context⟩) between
        (below swaps).onlySwaps
      rw [played] at leaves
      exact ((below swaps).trans leaves).trans (others leaves.onlySwaps)

/-- A walk that comes to a text over nodes of plugins that were there at its start. -/
theorem Walks.registered (walks : Walks .silent context items session trace outcome after)
    (swaps : OnlySwaps session.schedule) :
    ∀ {text : String}, outcome = .ok text → ∀ root ∈ items, ∀ node ∈ root.nodes,
      ∃ id ∈ session.hub.registry.types, node.typeOf = .str id := by
  induction walks with
  | done => simp
  | notObject _ | refused _ _ | misshapen _ _ _ | failedBelow _ _ _ _ _
  | failedLeaving _ _ _ _ _ _ _ =>
      intro text same
      simp at same
  | @left fields rest children session between after last type body inner later markup own result
      outcome named admitted shaped walked played _ _ below others =>
      intro text same root member node inside
      obtain rfl := childItems_eq_childNodes shaped
      have leaves := play_steady (body ⟨fields, paramsOf fields, markup, context⟩) between
        (walked.steady swaps).onlySwaps
      rw [played] at leaves
      have steady := (walked.steady swaps).trans leaves
      rcases List.mem_cons.mp member with rfl | inRest
      · rcases Value.mem_nodes_iff.mp inside with rfl | ⟨child, isChild, deeper⟩
        · obtain ⟨-, id, registration, typed, found, -⟩ := admission_ok admitted
          have idSame : registration.id = id := by simpa using List.find?_some found
          exact ⟨id, List.mem_map.mpr ⟨registration, List.mem_of_find?_eq_some found, idSame⟩,
            named ▸ typed⟩
        · exact below swaps rfl child isChild node deeper
      · cases outcome with
        | error fault => simp [Except.map] at same
        | ok onward =>
            obtain ⟨id, registered, typed⟩ :=
              others leaves.onlySwaps rfl root inRest node inside
            exact ⟨id, by rwa [Registry.types, steady.registrations] at registered, typed⟩

end

end PageComposer.Renderer
