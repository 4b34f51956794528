import PageComposer.Fault

/-!
# Programs over a state

A program works on a state step by step.  What it did to the state stays done when it
fails later on, so that a failure leaves nothing behind only if everything that may go
wrong comes before the first write.
-/

namespace PageComposer

/-- A program over a state, which keeps what it did even if it fails. -/
abbrev Program (State : Type) := ExceptT Fault (StateM State)

/-- What a program comes to in a state, and the state after it. -/
def Program.answer {State Result : Type} (program : Program State Result) (state : State) :
    Outcome Result × State := program.run.run state

end PageComposer
