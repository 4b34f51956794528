import PageComposer.Proofs.Service.Dependencies
import PageComposer.Proofs.Service.Standing

/-!
# Failed resolutions

A factory may catch the failures of what it needs, and go on.  Whatever it does,
`Family.resolve_traceless` says that a resolution that has come to its end leaves nothing of
a failure behind: nothing is being created, nothing is kept that was not created, and a
service whose creation failed is created anew when it is next resolved.
-/

namespace PageComposer.Service.Family

variable {World Instance : Type} {family after : Family World Instance} {handle : Handle}
  {id : Identifier} {key : Key} {registration : Registration World Instance}
  {steps : List (Step World Instance)}

/-- A service of which nothing is kept is created anew, on whatever container it is resolved. -/
theorem creations_of_venue {through : Handle}
    (serves : family.Serves handle id key registration) (free : ¬ family.IsCreating handle key)
    (missing : family.kept? handle registration.lifetime key = none)
    (venue : family.venue through id = handle) :
    ∃ before, family.creations through id =
      before ++ [⟨handle, key, registration.serial, (family.resolve through id).1⟩] := by
  cases family.way through id with
  | unkeyed keyless => simp [serves.named] at keyless
  | unknown named absent =>
      obtain rfl : through = handle := by simpa [Family.venue, absent] using venue
      exact creations_of_missing serves free missing
  | inherited named found single inherited =>
      obtain rfl : Handle.root = handle := (venue_of_inherits found single inherited) ▸ venue
      rw [creations, resolve, Family.depth, creationsAt_of_inherits named found single inherited,
        resolveAt_of_inherits named found single inherited,
        creationsAt_of_missing serves free missing, resolveAt_fst_of_missing serves free missing]
      exact ⟨_, rfl⟩
  | creating own _ | free own _ =>
      obtain rfl : through = handle := (venue_of_serves own).symm.trans venue
      exact creations_of_missing serves free missing

theorem Serves.created_anew (serves : family.Serves handle id key registration)
    (rested : family.Rested) (there : handle < family.size)
    (missing : family.kept? handle registration.lifetime key = none)
    (stands : ∀ step ∈ steps, ¬ step.Registers handle key)
    (uncreated : completions handle key (family.creationsAll steps) = []) {again : Identifier}
    {through : Handle} (named : again.key = some key)
    (venue : (family.performAll steps).venue through again = handle) :
    ∃ before, (family.performAll steps).creations through again =
      before ++ [⟨handle, key, registration.serial,
        ((family.performAll steps).resolve through again).1⟩] := by
  have servesLater := (serves.performAll rested there stands).of_key named
  have free := (rested.performAll steps).free handle key
  exact creations_of_venue servesLater free
    (kept?_performAll_eq_none there serves.get? stands missing uncreated) venue

/-- After a resolution on a family that was reached by any steps, nothing is being created,
as before; what is kept was created, and what was kept before still is.  A service whose
creation failed in the course of it is created anew, with nothing else being created, when it
is next resolved, however many steps later, unless it was registered anew or created in the
meantime. -/
theorem resolve_traceless {world : World} {earlier : List (Step World Instance)}
    (reached : (Family.start world).performAll earlier = family) (there : handle < family.size)
    (resolved : (family.resolve handle id).2 = after) :
    (∀ other, (after.container other).creating = (family.container other).creating ∧
      (family.container other).creating = []) ∧
    (∀ other lifetime key made, after.kept? other lifetime key = some made →
      ∃ serial, ⟨other, key, serial, .ok made⟩ ∈
        (Family.start world).creationsAll (earlier ++ [.resolve handle id])) ∧
    (∀ other lifetime key made, family.kept? other lifetime key = some made →
      after.kept? other lifetime key = some made) ∧
    ∀ creation ∈ family.creations handle id, ∀ fault, creation.outcome = .error fault →
      ∀ later final, after.performAll later = final →
        (∀ step ∈ later, ¬ step.Registers creation.handle creation.key) →
        completions creation.handle creation.key
          (family.creations handle id ++ after.creationsAll later) = [] →
        ∀ through, ∀ again : Identifier, again.key = some creation.key →
          final.venue through again = creation.handle →
            (∀ other, (final.container other).creating = []) ∧
            ∃ before, final.creations through again =
              before ++ [⟨creation.handle, creation.key, creation.serial,
                (final.resolve through again).1⟩] := by
  have rested : family.Rested := reached ▸ (rested_start world).performAll earlier
  have accounts : family.Accounts (family.creations handle id) after :=
    resolved ▸ accounts_resolve family handle id
  refine ⟨fun other => ⟨accounts.shape.creating other, rested.idle other⟩, ?_, ?_, ?_⟩
  · intro other lifetime key made held
    rw [← resolved] at held
    apply exists_creation_of_kept?
    rw [performAll_append, reached]
    exact held
  · intro other lifetime key made held
    exact accounts.stays held
  · rintro ⟨other, key, serial, outcome⟩ member fault - later final rfl stands uncreated through
      again named venue
    rw [completions_append, List.append_eq_nil_iff] at uncreated
    obtain ⟨_, registration, serves, rfl, -, missing⟩ := accounts.due _ member
    have rooted : Handle.root < family.size := Nat.lt_of_le_of_lt (Nat.zero_le _) there
    have otherThere : other < after.size := by
      rw [accounts.shape.size]
      rcases handle_of_mem_creations member with rfl | rfl
      · exact there
      · exact rooted
    have restedAfter := rested.transfer accounts.shape
    have servesAfter : after.Serves other _ key registration := serves.congr fun handle =>
      (accounts.shape.registrations handle).symm
    have missingAfter : after.kept? other registration.lifetime key = none := by
      cases held : after.kept? other registration.lifetime key with
      | none => rfl
      | some made =>
          have same := accounts.held other key registration serves.get? (keeps_of_kept? held)
          rw [held, missing, uncreated.1] at same
          simp at same
    exact ⟨(restedAfter.performAll later).idle, servesAfter.created_anew restedAfter otherThere
      missingAfter stands uncreated.2 named venue⟩

/-! ### A failure that is caught -/

def unsteady : Identifier := .ofText "unsteady"

def patient : Identifier := .ofText "patient"

/-- Fails until something was written to the world. -/
def unsteadyFactory : Factory Nat Nat :=
  .ofRecipe (.read fun count => .write (count + 1) (if count = 0 then .fail .wrongKind else .give count))

/-- Does without the unsteady service if it has to. -/
def patientFactory : Factory Nat Nat :=
  .ofRecipe (.need unsteady fun
    | .ok found => .give found
    | .error _ => .give 100)

def patientSteps : List (Step Nat Nat) := [
  .register Handle.root unsteady unsteadyFactory .singleton [],
  .register Handle.root patient patientFactory .perScope [],
  .createScope Handle.root]

def patientFamily : Family Nat Nat := (Family.start 0).performAll patientSteps

def patientAfter : Family Nat Nat := (patientFamily.resolve 1 patient).2

/-- The scope has come to something else, and then to the unsteady service of the root. -/
theorem resolve_traceless_patient :
    (1 : Handle) < patientFamily.size ∧ (patientFamily.resolve 1 patient).1 = .ok 100 ∧
    (patientAfter.container 1).creating = [] ∧
    patientAfter.kept? Handle.root .singleton (.text "unsteady") = none ∧
    (∃ serial, ⟨1, .text "patient", serial, .ok 100⟩ ∈
      (Family.start 0).creationsAll (patientSteps ++ [.resolve 1 patient])) ∧
    ∃ before, (patientAfter.performAll [.createScope 1]).creations 2 unsteady =
      before ++ [⟨Handle.root, .text "unsteady", 0, .ok 1⟩] := by
  have there : (1 : Handle) < patientFamily.size := by decide
  obtain ⟨idle, created, -, anew⟩ := resolve_traceless
    (show (Family.start 0).performAll patientSteps = patientFamily from rfl) there
    (show (patientFamily.resolve 1 patient).2 = patientAfter from rfl)
  have failed : ⟨Handle.root, .text "unsteady", 0, .error .wrongKind⟩ ∈
      patientFamily.creations 1 patient := List.mem_cons_self
  obtain ⟨-, again⟩ := anew _ failed _ rfl [.createScope 1] _ rfl (by simp [Step.Registers]) rfl 2
    unsteady rfl rfl
  exact ⟨there, rfl, (idle 1).1, rfl, created 1 .perScope (.text "patient") 100 rfl, again⟩

end PageComposer.Service.Family
