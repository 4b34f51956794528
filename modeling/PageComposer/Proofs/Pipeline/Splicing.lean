import PageComposer.Proofs.Pipeline.Discipline

/-!
# Pipelines in pipelines

`Pipeline.effect` is what a host sees of a run: how it ends, the context and the journal, in
which middlewares write down what they do in the order in which they do it.  A pipeline of
two stacks, one behind the other, has the effect of the first one with the effect of the
second one behind it.

`Pipeline.toMiddleware` is a pipeline as one middleware of another stack.  It counts its own
stations and knows nothing of those around it, and yet the stack does what it does with the
middlewares of the pipeline in its place, however deep pipelines stand in pipelines.
-/

namespace PageComposer

/-- What is seen from outside of a step that begins when so many stations have been entered. -/
def Continuation.seen (continuation : Continuation) (entered : Nat) : Effect := fun before =>
  let (outcome, after) := continuation ⟨before.1, before.2, entered⟩
  (outcome, after.context, after.journal)

def Pipeline.effect (pipeline : Pipeline) (outer : Option Effect) : Effect := fun before =>
  let (outcome, after) := pipeline.run (.ofEffect outer) before.1 before.2
  (outcome, after.context, after.journal)

theorem Pipeline.effect_eq_seen (pipeline : Pipeline) (outer : Option Effect) :
    pipeline.effect outer =
      Continuation.seen (Pipeline.dispatch (.ofEffect outer) 0 pipeline.stack) 0 := rfl

/-! ### Runs that go in step -/

/-- Passages that show the same, and whose counts of stations keep to a relation. -/
structure Passage.Alike (counts : Nat → Nat → Prop) (left right : Passage) : Prop where
  context : right.context = left.context
  journal : right.journal = left.journal
  entered : counts left.entered right.entered

def Continuation.InStep (counts : Nat → Nat → Prop) (left right : Continuation) : Prop :=
  ∀ before other : Passage, before.Alike counts other →
    (right other).1 = (left before).1 ∧ (left before).2.Alike counts (right other).2

theorem Continuation.InStep.seen {counts : Nat → Nat → Prop} {left right : Continuation}
    (inStep : InStep counts left right) {first second : Nat} (start : counts first second) :
    right.seen second = left.seen first := by
  funext ⟨context, journal⟩
  obtain ⟨outcome, alike⟩ :=
    inStep ⟨context, journal, first⟩ ⟨context, journal, second⟩ ⟨rfl, rfl, start⟩
  simp only [Continuation.seen]
  rw [outcome, alike.context, alike.journal]

/-- A middleware passes on what relates the continuations that it stands in front of. -/
theorem Middleware.run_inStep {counts : Nat → Nat → Prop} {left right : Continuation}
    (inStep : left.InStep counts right) (middleware : Middleware) :
    Continuation.InStep counts (middleware.run left) (middleware.run right) := by
  induction middleware with
  | done | fail fault =>
      intro before other alike
      exact ⟨rfl, alike⟩
  | read rest induction =>
      intro before other alike
      rw [Middleware.run, Middleware.run, alike.context]
      exact induction before.context before other alike
  | write context rest induction =>
      intro before other alike
      apply induction
      exact ⟨rfl, alike.journal, alike.entered⟩
  | note entry rest induction =>
      intro before other alike
      apply induction
      exact ⟨alike.context, congrArg (· ++ [entry]) alike.journal, alike.entered⟩
  | next rest induction =>
      intro before other alike
      obtain ⟨outcome, onward⟩ := inStep before other alike
      rw [Middleware.run, Middleware.run]
      simp only [outcome]
      exact induction _ _ _ onward

namespace Pipeline

variable {outer : Option Effect}

theorem ofEffect_inStep (counts : Nat → Nat → Prop) {before other : Passage}
    (alike : before.Alike counts other) :
    (Continuation.ofEffect outer other).1 = (Continuation.ofEffect outer before).1 ∧
      (Continuation.ofEffect outer before).2.Alike counts (Continuation.ofEffect outer other).2 := by
  cases outer with
  | none => exact ⟨rfl, alike⟩
  | some effect =>
      simp only [Continuation.ofEffect, alike.context, alike.journal]
      exact ⟨trivial, rfl, rfl, alike.entered⟩

section

variable {continuation : Continuation} {station : Nat} {passage : Passage}

theorem dispatch_of_lt {stack : List Middleware} (late : station < passage.entered) :
    dispatch continuation station stack passage = (refused, passage) := by
  rw [dispatch, if_pos late]
  rfl

theorem dispatch_nil_of_le (fresh : passage.entered ≤ station) :
    dispatch continuation station [] passage =
      continuation { passage with entered := station + 1 } := by
  rw [dispatch, if_neg (Nat.not_lt.mpr fresh)]

theorem dispatch_cons_of_le {middleware : Middleware} {rest : List Middleware}
    (fresh : passage.entered ≤ station) :
    dispatch continuation station (middleware :: rest) passage =
      middleware.run (dispatch continuation (station + 1) rest)
        { passage with entered := station + 1 } := by
  rw [dispatch, if_neg (Nat.not_lt.mpr fresh)]

/-- How many stations have been entered does not matter to one that is yet to be entered. -/
theorem dispatch_of_le {stack : List Middleware} (fresh : passage.entered ≤ station) :
    dispatch continuation station stack passage =
      dispatch continuation station stack { passage with entered := station } := by
  rw [dispatch, dispatch, if_neg (Nat.not_lt.mpr fresh), if_neg (Nat.lt_irrefl station)]

theorem lt_entered_dispatch (outer : Option Effect) (stack : List Middleware)
    (fresh : passage.entered ≤ station) :
    station < (dispatch (.ofEffect outer) station stack passage).2.entered := by
  obtain ⟨reached, visit, far⟩ := visit_traced outer stack station passage fresh
  rw [dispatch_eq_traced]
  exact Nat.lt_of_lt_of_eq (Nat.lt_succ_of_le visit.bounds.1) far.symm

end

/-- Stations that are refused together need only be looked at when they are entered. -/
theorem dispatch_inStep {counts : Nat → Nat → Prop} {left right : Continuation}
    {first second : Nat} {stack other : List Middleware}
    (turns : ∀ {here there : Nat}, counts here there → (second < there ↔ first < here))
    (enters : ∀ before after : Passage, before.Alike counts after → before.entered ≤ first →
      after.entered ≤ second →
      (dispatch right second other after).1 = (dispatch left first stack before).1 ∧
        (dispatch left first stack before).2.Alike counts (dispatch right second other after).2) :
    Continuation.InStep counts (dispatch left first stack) (dispatch right second other) := by
  intro before after alike
  have together := turns alike.entered
  rcases Nat.lt_or_ge first before.entered with late | fresh
  · rw [dispatch_of_lt late, dispatch_of_lt (together.mpr late)]
    exact ⟨rfl, alike⟩
  · have alsoFresh : after.entered ≤ second :=
      Nat.not_lt.mp fun late => absurd (together.mp late) (Nat.not_lt.mpr fresh)
    exact enters before after alike fresh alsoFresh

/-- A station can have any number. -/
theorem dispatch_shift (outer : Option Effect) (shift station : Nat) (stack : List Middleware) :
    Continuation.InStep (fun first second => second = first + shift)
      (dispatch (.ofEffect outer) station stack)
      (dispatch (.ofEffect outer) (station + shift) stack) := by
  induction stack generalizing station with
  | nil =>
      apply dispatch_inStep
      · intro here there same
        omega
      · intro before after alike fresh alsoFresh
        rw [dispatch_nil_of_le fresh, dispatch_nil_of_le alsoFresh]
        exact ofEffect_inStep _ ⟨alike.context, alike.journal, Nat.add_right_comm ..⟩
  | cons middleware rest induction =>
      have onward := induction (station + 1)
      rw [Nat.add_right_comm] at onward
      apply dispatch_inStep
      · intro here there same
        omega
      · intro before after alike fresh alsoFresh
        rw [dispatch_cons_of_le fresh, dispatch_cons_of_le alsoFresh]
        apply Middleware.run_inStep onward
        exact ⟨alike.context, alike.journal, Nat.add_right_comm ..⟩

/-- Behind the seam of two stacks the second one counts on, while the first one has entered
its outer continuation and counts no further. -/
def seamed (seam : Nat) : Nat → Nat → Prop := fun flat split => split = min flat (seam + 1)

theorem dispatch_seam (outer : Option Effect) (second : List Middleware) {station seam : Nat}
    (first : List Middleware)
    (long : station + first.length = seam) :
    Continuation.InStep (seamed seam)
      (dispatch (.ofEffect outer) station (first ++ second))
      (dispatch (.ofEffect (some ((Pipeline.mk second).effect outer))) station first) := by
  induction first generalizing station with
  | nil =>
      obtain rfl : station = seam := long
      apply dispatch_inStep
      · intro here there same
        have split : there = min here (station + 1) := same
        omega
      · intro before after alike fresh alsoFresh
        -- The second stack is entered: on its own with numbers from zero on, and in one
        -- stack with the first one with numbers from the seam on.
        obtain ⟨outcome, shifted⟩ := dispatch_shift outer station 0 second
          ⟨before.context, before.journal, 0⟩ { before with entered := station }
          ⟨rfl, rfl, (Nat.zero_add station).symm⟩
        rw [Nat.zero_add, ← dispatch_of_le fresh] at outcome shifted
        have counted := lt_entered_dispatch outer second fresh
        rw [List.nil_append, dispatch_nil_of_le alsoFresh]
        simp only [Continuation.ofEffect, effect, run, alike.context, alike.journal]
        refine ⟨outcome.symm, shifted.context.symm, shifted.journal.symm, ?_⟩
        exact (Nat.min_eq_right counted).symm
  | cons middleware rest induction =>
      rw [List.length_cons] at long
      have onward := @induction (station + 1) (by omega)
      apply dispatch_inStep
      · intro here there same
        have split : there = min here (seam + 1) := same
        omega
      · intro before after alike fresh alsoFresh
        rw [List.cons_append, dispatch_cons_of_le fresh, dispatch_cons_of_le alsoFresh]
        apply Middleware.run_inStep onward
        have inside : station + 1 ≤ seam + 1 := by omega
        exact ⟨alike.context, alike.journal, (Nat.min_eq_left inside).symm⟩

theorem effect_append (first second : List Middleware) (outer : Option Effect) :
    (Pipeline.mk (first ++ second)).effect outer =
      (Pipeline.mk first).effect (some ((Pipeline.mk second).effect outer)) := by
  rw [effect_eq_seen, effect_eq_seen]
  have seam := dispatch_seam outer second first (Nat.zero_add first.length)
  exact (seam.seen (Nat.zero_min _).symm).symm

end Pipeline

/-! ### A pipeline as one middleware -/

/-- A part of a program: what it does when it has entered so many stations of its own, and
what comes after it. -/
abbrev Passing := Nat → (Outcome Unit → Nat → Middleware) → Middleware

namespace Middleware

/-- The part that a middleware is in front of another part. -/
def within (behind : Passing) : Middleware → Passing
  | .done, entered, after => after (.ok ()) entered
  | .fail fault, entered, after => after (.error fault) entered
  | .read rest, entered, after => .read fun context => within behind (rest context) entered after
  | .write context rest, entered, after => .write context (within behind rest entered after)
  | .note entry rest, entered, after => .note entry (within behind rest entered after)
  | .next rest, entered, after =>
      behind entered fun outcome entered => within behind (rest outcome) entered after

def ending : Outcome Unit → Middleware
  | .ok () => .done
  | .error fault => .fail fault

end Middleware

namespace Pipeline

/-- The part that begins where a station is entered.  Behind the last station it continues
with what stands around the pipeline. -/
def passing : Nat → List Middleware → Passing
  | station, stack, entered, after =>
      if station < entered then after refused entered
      else
        match stack with
        | [] => .next fun outcome => after outcome (station + 1)
        | middleware :: rest => middleware.within (passing (station + 1) rest) (station + 1) after

/-- A pipeline as one middleware of another stack. -/
def toMiddleware (pipeline : Pipeline) : Middleware :=
  passing 0 pipeline.stack 0 fun outcome _ => .ending outcome

end Pipeline

/-- A part does what a continuation does that counts the same stations, and goes on after it
in a passage that shows the same. -/
def Passing.Follows (counts : Nat → Nat → Prop) (next continuation : Continuation)
    (passing : Passing) : Prop :=
  ∀ inside around : Passage, inside.Alike counts around →
    ∃ left, (continuation inside).2.Alike counts left ∧
      ∀ after, (passing inside.entered after).run next around =
        (after (continuation inside).1 (continuation inside).2.entered).run next left

theorem Middleware.within_follows {counts : Nat → Nat → Prop} {next continuation : Continuation}
    {behind : Passing} (follows : behind.Follows counts next continuation)
    (middleware : Middleware) :
    Passing.Follows counts next (middleware.run continuation) (middleware.within behind) := by
  induction middleware with
  | done | fail fault =>
      intro inside around alike
      exact ⟨around, alike, fun _ => rfl⟩
  | read rest induction =>
      intro inside around alike
      obtain ⟨left, same, onward⟩ := induction inside.context inside around alike
      refine ⟨left, same, fun after => ?_⟩
      rw [Middleware.within, Middleware.run, alike.context]
      exact onward after
  | write context rest induction =>
      intro inside around alike
      exact induction { inside with context := context } { around with context := context }
        ⟨rfl, alike.journal, alike.entered⟩
  | note entry rest induction =>
      intro inside around alike
      exact induction { inside with journal := inside.journal ++ [entry] }
        { around with journal := around.journal ++ [entry] }
        ⟨alike.context, congrArg (· ++ [entry]) alike.journal, alike.entered⟩
  | next rest induction =>
      intro inside around alike
      obtain ⟨between, same, reached⟩ := follows inside around alike
      obtain ⟨left, last, onward⟩ := induction _ _ _ same
      refine ⟨left, last, fun after => ?_⟩
      rw [Middleware.within, reached]
      exact onward after

namespace Pipeline

/-- As long as a pipeline of some stations has not continued with what stands around it, as
many of the stations around it have been entered as at its start. -/
def untouched (length start : Nat) : Nat → Nat → Prop := fun inside around =>
  inside ≤ length → around = start

theorem passing_follows (next : Continuation) (start : Nat) {station length : Nat}
    (stack : List Middleware) (long : station + stack.length = length) :
    Passing.Follows (untouched length start) next
      (dispatch (.ofEffect (some (next.seen start))) station stack) (passing station stack) := by
  induction stack generalizing station with
  | nil =>
      obtain rfl : station = length := long
      intro inside around alike
      rcases Nat.lt_or_ge station inside.entered with late | fresh
      · rw [dispatch_of_lt late]
        refine ⟨around, alike, fun after => ?_⟩
        rw [passing, if_pos late]
      · -- The stations around the pipeline are still as they were when it was entered, so
        -- what stands behind it does what it would have done then.
        have begun : around = ⟨inside.context, inside.journal, start⟩ := by
          obtain ⟨context, journal, entered⟩ := around
          obtain ⟨rfl, rfl, counted⟩ := alike
          rw [← counted fresh]
        subst begun
        rw [dispatch_nil_of_le fresh]
        refine ⟨(next ⟨inside.context, inside.journal, start⟩).2,
          ⟨rfl, rfl, fun inner => absurd inner (Nat.not_succ_le_self station)⟩, fun after => ?_⟩
        rw [passing, if_neg (Nat.not_lt.mpr fresh), Middleware.run]
        rfl
  | cons middleware rest induction =>
      rw [List.length_cons] at long
      have onward := Middleware.within_follows
        (@induction (station + 1) (by omega)) middleware
      intro inside around alike
      rcases Nat.lt_or_ge station inside.entered with late | fresh
      · rw [dispatch_of_lt late]
        refine ⟨around, alike, fun after => ?_⟩
        rw [passing, if_pos late]
      · have before : inside.entered ≤ length := by omega
        obtain ⟨left, same, reached⟩ := onward { inside with entered := station + 1 } around
          ⟨alike.context, alike.journal, fun _ => alike.entered before⟩
        rw [dispatch_cons_of_le fresh]
        refine ⟨left, same, fun after => ?_⟩
        rw [passing, if_neg (Nat.not_lt.mpr fresh)]
        exact reached after

/-- A pipeline as a middleware does what the pipeline does with what the middleware continues
with behind it. -/
theorem seen_toMiddleware (pipeline : Pipeline) (next : Continuation) (start : Nat) :
    Continuation.seen (pipeline.toMiddleware.run next) start =
      pipeline.effect (some (next.seen start)) := by
  funext ⟨context, journal⟩
  obtain ⟨left, same, reached⟩ := passing_follows next start pipeline.stack
    (Nat.zero_add pipeline.stack.length) ⟨context, journal, 0⟩ ⟨context, journal, start⟩
    ⟨rfl, rfl, fun _ => rfl⟩
  have ended (outcome : Outcome Unit) (passage : Passage) :
      (Middleware.ending outcome).run next passage = (outcome, passage) := by
    rcases outcome with fault | ⟨⟩ <;> rfl
  rw [effect_eq_seen]
  simp only [Continuation.seen, toMiddleware]
  rw [reached, ended, same.context, same.journal]

theorem effect_toMiddleware (pipeline : Pipeline) (outer : Option Effect) :
    (Pipeline.mk [pipeline.toMiddleware]).effect outer = pipeline.effect outer := by
  have entered : (Pipeline.mk [pipeline.toMiddleware]).effect outer =
      Continuation.seen (pipeline.toMiddleware.run (dispatch (.ofEffect outer) 1 [])) 1 := rfl
  rw [entered, seen_toMiddleware]
  cases outer <;> rfl

end Pipeline

/-! ### Pipelines at any depth -/

/-- A middleware, or a pipeline of such. -/
inductive Nest where
  | one (middleware : Middleware)
  | pipeline (stack : List Nest)

namespace Nest

mutual

/-- The middleware that stands in a stack for a nest. -/
def toMiddleware : Nest → Middleware
  | .one middleware => middleware
  | .pipeline stack => (Pipeline.mk (toMiddlewares stack)).toMiddleware

def toMiddlewares : List Nest → List Middleware
  | [] => []
  | first :: rest => first.toMiddleware :: toMiddlewares rest

end

mutual

/-- The middlewares of a nest in their order. -/
def spliced : Nest → List Middleware
  | .one middleware => [middleware]
  | .pipeline stack => splicedAll stack

def splicedAll : List Nest → List Middleware
  | [] => []
  | first :: rest => first.spliced ++ splicedAll rest

end

mutual

theorem effect_toMiddleware (nest : Nest) (outer : Option Effect) :
    (Pipeline.mk [nest.toMiddleware]).effect outer = (Pipeline.mk nest.spliced).effect outer := by
  cases nest with
  | one middleware => rfl
  | pipeline stack =>
      rw [toMiddleware, Pipeline.effect_toMiddleware, spliced]
      exact effect_toMiddlewares stack outer

theorem effect_toMiddlewares (stack : List Nest) (outer : Option Effect) :
    (Pipeline.mk (toMiddlewares stack)).effect outer =
      (Pipeline.mk (splicedAll stack)).effect outer := by
  cases stack with
  | nil => rfl
  | cons first rest =>
      have apart : toMiddlewares (first :: rest) = [first.toMiddleware] ++ toMiddlewares rest := rfl
      rw [apart, Pipeline.effect_append, effect_toMiddlewares rest, effect_toMiddleware first,
        ← Pipeline.effect_append, splicedAll]

end

end Nest

/-- A stack is cut in two, or put together from pipelines, without any effect. -/
theorem Pipeline.effect_spliced :
    (∀ (first second : List Middleware) (outer : Option Effect),
      (Pipeline.mk (first ++ second)).effect outer =
        (Pipeline.mk first).effect (some ((Pipeline.mk second).effect outer))) ∧
    (∀ (pipeline : Pipeline) (next : Continuation) (start : Nat),
      Continuation.seen (pipeline.toMiddleware.run next) start =
        pipeline.effect (some (next.seen start))) ∧
    ∀ (stack : List Nest) (outer : Option Effect),
      (Pipeline.mk (Nest.toMiddlewares stack)).effect outer =
        (Pipeline.mk (Nest.splicedAll stack)).effect outer := by
  refine ⟨?_, ?_, ?_⟩
  · intro first second outer
    exact Pipeline.effect_append first second outer
  · intro pipeline next start
    exact pipeline.seen_toMiddleware next start
  · intro stack outer
    exact Nest.effect_toMiddlewares stack outer

end PageComposer
