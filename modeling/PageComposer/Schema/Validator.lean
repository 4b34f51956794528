import PageComposer.Fault
import PageComposer.Schema.Finding

/-!
# Validators

A validator is what a data form of a schema is compiled to.  A familiar form is read
here.  Any other is handed to a library that knows the whole standard, of which
nothing is said but that it may refuse the form, and that it may fail, also later
when a value is checked.
-/

namespace PageComposer

/-- What is found wrong with a value. -/
abbrev Check := Value → Outcome (List Finding)

/-- A library that compiles the forms that are not familiar; it has nothing for a form that
the standard does not admit. -/
abbrev Schema.Library := Value → Outcome (Option Check)

/-- A library that admits no form. -/
def Schema.Library.none : Schema.Library := fun _ => .ok .none

inductive Validator where
  | known (schema : Schema)
  | foreign (check : Check)

namespace Validator

/-- What a form is compiled to, if the standard admits it. -/
def ofValue? (library : Schema.Library) (form : Value) : Outcome (Option Validator) :=
  if Schema.isFamiliar form then .ok ((Schema.ofValue? form).map known)
  else do return (← library form).map foreign

/-- What a validator finds wrong with a value, in the order of the places. -/
def report : Validator → Check
  | known schema, value => .ok (schema.report value)
  | foreign check, value => do return Schema.inOrder (← check value)

end Validator

end PageComposer
