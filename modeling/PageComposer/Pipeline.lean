import PageComposer.Fault
import PageComposer.Request

/-!
# Pipelines

A pipeline is a stack of middlewares around the context of a request.  A middleware
is a program: it reads and writes the context, and it may continue with the rest of
the stack, whose failure it sees and may catch.  Behind the last middleware comes an
outer continuation.

`Pipeline.run` enters the middlewares from the first to the last.  A run counts how
far it has come, and a middleware that continues a second time fails, since the
count is past its successor by then.
-/

namespace PageComposer

/-- The program of a middleware. -/
inductive Middleware where
  | done
  | fail (fault : Fault)
  | read (rest : Context → Middleware)
  | write (context : Context) (rest : Middleware)
  | note (entry : Value) (rest : Middleware)
  /-- Continue with the rest of the stack. -/
  | next (rest : Outcome Unit → Middleware)

namespace Middleware

/-- Go on after the rest of the stack unless it failed. -/
def nextThen (rest : Middleware) : Middleware :=
  .next fun
    | .ok () => rest
    | .error fault => .fail fault

/-- Change the context and continue. -/
def update (change : Context → Outcome Context) : Middleware :=
  .read fun context =>
    match change context with
    | .ok changed => .write changed (nextThen .done)
    | .error fault => .fail fault

end Middleware

/-- What a run works on. -/
structure Passage where
  context : Context
  journal : List Value
  /-- How many stations have been entered; the outer continuation is the last one. -/
  entered : Nat
  deriving DecidableEq, Repr

/-- A step that may fail and keeps what it did even so. -/
abbrev Continuation := Passage → Outcome Unit × Passage

/-- The continuation that does nothing. -/
def Continuation.none : Continuation := fun passage => (.ok (), passage)

namespace Middleware

/-- Run a middleware in front of a continuation. -/
def run (next : Continuation) : Middleware → Continuation
  | .done, passage => (.ok (), passage)
  | .fail fault, passage => (.error fault, passage)
  | .read rest, passage => run next (rest passage.context) passage
  | .write context rest, passage => run next rest { passage with context := context }
  | .note entry rest, passage =>
      run next rest { passage with journal := passage.journal ++ [entry] }
  | .next rest, passage =>
      let (outcome, passed) := next passage
      run next (rest outcome) passed

end Middleware

/-- A stack of middlewares. -/
structure Pipeline where
  stack : List Middleware

namespace Pipeline

def length (pipeline : Pipeline) : Nat := pipeline.stack.length

/-- A stack has to be a collection. -/
def notAList : Problem := .middleware "Middleware stack must be a list" .middlewareInvalid

/-- Every entry of a stack has to be a middleware. -/
def notCallable : Problem := .middleware "Middleware must be callables" .middlewareInvalid

/-- The pipeline of a stack, some of whose entries may be no middlewares. -/
def compose (entries : List (Option Middleware)) : Outcome Pipeline :=
  match entries.mapM id with
  | some stack => .ok ⟨stack⟩
  | none => .error (.problem notCallable)

/-- Enter the station with a number and all that come after it. -/
def dispatch (outer : Continuation) : Nat → List Middleware → Continuation
  | station, stack, passage =>
      if station < passage.entered then (.error (.problem .nextRepeated), passage)
      else
        let entering := { passage with entered := station + 1 }
        match stack with
        | [] => outer entering
        | middleware :: rest => middleware.run (dispatch outer (station + 1) rest) entering

/-- Run a pipeline on a context, with a journal that it adds to. -/
def run (pipeline : Pipeline) (outer : Continuation) (context : Context)
    (journal : List Value) : Outcome Unit × Passage :=
  dispatch outer 0 pipeline.stack ⟨context, journal, 0⟩

end Pipeline

end PageComposer
