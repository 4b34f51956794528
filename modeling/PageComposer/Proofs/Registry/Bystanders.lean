import PageComposer.Proofs.Registry.Changes

/-!
# Listeners that leave the allowlist alone

Listeners act in the middle of a delivery, and one of them may replace the allowlist that has
just been put in force.  Among bystanders, who never ask for that but may do everything else,
the allowlist that a caller has put in force is the one in force when the call is over.
-/

namespace PageComposer

def Change.Bystanding (change : Change) : Prop :=
  ∀ ids, change ≠ .setAllowlist ids

inductive Reaction.Bystanding : Reaction → Prop where
  | done : Bystanding .done
  | fail : Bystanding .fail
  | note {entry : Value} {rest : Reaction} (onward : Bystanding rest) :
      Bystanding (.note entry rest)
  | ask {change : Change} {rest : Outcome Unit → Reaction} (asks : change.Bystanding)
      (onward : ∀ outcome, Bystanding (rest outcome)) : Bystanding (.ask change rest)

def Audience.Bystanding (audience : Audience) : Prop :=
  ∀ listener event, (audience.react listener event).Bystanding

theorem Audience.bystanding_silent : Audience.silent.Bystanding :=
  fun _ _ => .done

namespace Hub

/-- A way of performing changes replaces the allowlist only when it is asked to. -/
def Spares (ask : Change → Hub → Outcome Unit × Hub) : Prop :=
  ∀ change hub, change.Bystanding →
    (ask change hub).2.registry.allowlist = hub.registry.allowlist

variable {ask : Change → Hub → Outcome Unit × Hub} {react : String → Event → Reaction}

theorem Spares.run (spares : Spares ask) {reaction : Reaction}
    (bystanding : reaction.Bystanding) (hub : Hub) :
    (Hub.run ask reaction hub).registry.allowlist = hub.registry.allowlist := by
  induction bystanding generalizing hub with
  | done | fail => rfl
  | note _ induction => exact induction (hub.write _)
  | @ask change rest asks _ induction =>
      calc (Hub.run ask (.ask change rest) hub).registry.allowlist
          = (ask change hub).2.registry.allowlist := induction (ask change hub).1 _
        _ = hub.registry.allowlist := spares change hub asks

theorem Spares.announce (spares : Spares ask)
    (bystanding : ∀ listener event, (react listener event).Bystanding) (event : Event)
    (hub : Hub) :
    (Hub.announce react ask event hub).registry.allowlist = hub.registry.allowlist := by
  unfold Hub.announce
  generalize hub.registry.listeners event = listeners
  induction listeners generalizing hub with
  | nil => rfl
  | cons listener rest induction =>
      rw [List.foldl_cons, induction, spares.run (bystanding listener event)]

theorem allowlist_of_change {registry changed : Registry} {change : Change}
    {event : Option Event} (made : registry.change change = .ok (changed, event))
    (bystanding : change.Bystanding) : changed.allowlist = registry.allowlist := by
  rcases Registry.change_ok made with ⟨plugin, argument, told, -, -, accepted⟩ |
    ⟨id, told, -, -, accepted⟩ | ⟨ids, told, rfl, -⟩ | ⟨-, -, subscriptions, rfl⟩
  · obtain ⟨id, metadata, compiled, -, -, -, -, -, -, rfl⟩ := Registry.register_ok accepted
    rfl
  · obtain ⟨name, registration, -, -, -, -, rfl⟩ := Registry.unregister_ok accepted
    rfl
  · exact absurd rfl (bystanding ids)
  · rfl

/-- A step spares the allowlist when the steps that it may nest do. -/
theorem Spares.step (spares : Spares ask)
    (bystanding : ∀ listener event, (react listener event).Bystanding) :
    Spares (Hub.step react ask) := by
  intro change hub asks
  rw [Hub.step_eq]
  rcases made : hub.registry.change change with fault | ⟨changed, event⟩
  · rfl
  · have kept := allowlist_of_change made asks
    cases event with
    | none => exact kept
    | some event => exact (spares.announce bystanding event _).trans kept

theorem spares_performAt (bystanding : ∀ listener event, (react listener event).Bystanding)
    (depth : Nat) : Spares (performAt react depth) := by
  induction depth with
  | zero => exact Spares.step (fun _ _ _ => rfl) bystanding
  | succ depth induction => exact induction.step bystanding

section

variable {ids : Value} {allowed : Option (List String)}

theorem step_setAllowlist (read : Registry.allowedIds? ids = .ok allowed) (hub : Hub) :
    Hub.step react ask (.setAllowlist ids) hub =
      (.ok (), Hub.announce react ask (.allowlistChanged allowed)
        { hub with registry := { hub.registry with allowlist := allowed } }) := by
  simp only [Hub.step_eq, Registry.change_setAllowlist read]

/-- Among bystanders the allowlist that is put in force stays in force. -/
theorem perform_setAllowlist (audience : Audience)
    (read : Registry.allowedIds? ids = .ok allowed) (hub : Hub) :
    (hub.perform audience (.setAllowlist ids)).1 = .ok () ∧
      (audience.Bystanding →
        (hub.perform audience (.setAllowlist ids)).2.registry.allowlist = allowed) := by
  unfold perform
  cases audience.depth with
  | zero =>
      rw [performAt, step_setAllowlist read]
      exact ⟨rfl, fun bystanding => Spares.announce (fun _ _ _ => rfl) bystanding _ _⟩
  | succ depth =>
      rw [performAt, step_setAllowlist read]
      exact ⟨rfl, fun bystanding => (spares_performAt bystanding depth).announce bystanding _ _⟩

end

end Hub

end PageComposer
