import PageComposer.Pipeline

/-!
# The discipline of a run

`Pipeline.traced` runs a pipeline and marks what it passes: the stations that it enters and
leaves, where a middleware continues and what it is handed back.  `Pipeline.run_eq_trace`
forgets the marks.

The marks of a run have the form of a `Visit`: a station that continues is behind one visit
of the next station, and whatever it tries after that is refused.  `Visit.disciplined` reads
off this form in which order stations are entered, by whom, and how far an error goes.
-/

namespace PageComposer

/-- What a run passes.  The stations are the middlewares by their numbers, and behind them
the outer continuation. -/
inductive Mark where
  | enter (station : Nat)
  /-- The middleware at the station continues. -/
  | next (station : Nat) (passage : Passage)
  /-- What the middleware at the station is handed back. -/
  | back (station : Nat) (outcome : Outcome Unit) (passage : Passage)
  | leave (station : Nat) (outcome : Outcome Unit)

namespace Mark

def station : Mark → Nat
  | enter station | next station _ | back station _ _ | leave station _ => station

def entered? : Mark → Option Nat
  | enter station => some station
  | next .. | back .. | leave .. => none

def left? : Mark → Option Nat
  | leave station _ => some station
  | enter _ | next .. | back .. => none

end Mark

/-- A run with its marks. -/
structure Traced where
  marks : List Mark
  outcome : Outcome Unit
  passage : Passage

def Traced.result (traced : Traced) : Outcome Unit × Passage := (traced.outcome, traced.passage)

/-- What a host does behind the last middleware: it sees the context and the journal, and
knows nothing of the run. -/
abbrev Effect := Context × List Value → Outcome Unit × (Context × List Value)

def Continuation.ofEffect : Option Effect → Continuation
  | .none => Continuation.none
  | some effect => fun passage =>
      let (outcome, context, journal) := effect (passage.context, passage.journal)
      (outcome, { passage with context := context, journal := journal })

theorem Continuation.entered_ofEffect (effect : Option Effect) (passage : Passage) :
    (Continuation.ofEffect effect passage).2.entered = passage.entered := by
  cases effect <;> rfl

/-- Run a middleware at a station in front of a continuation. -/
def Middleware.traced (station : Nat) (next : Passage → Traced) : Middleware → Passage → Traced
  | .done, passage => ⟨[], .ok (), passage⟩
  | .fail fault, passage => ⟨[], .error fault, passage⟩
  | .read rest, passage => traced station next (rest passage.context) passage
  | .write context rest, passage =>
      traced station next rest { passage with context := context }
  | .note entry rest, passage =>
      traced station next rest { passage with journal := passage.journal ++ [entry] }
  | .next rest, passage =>
      let behind := next passage
      let onward := traced station next (rest behind.outcome) behind.passage
      ⟨.next station passage ::
          (behind.marks ++ .back station behind.outcome behind.passage :: onward.marks),
        onward.outcome, onward.passage⟩

/-- What a middleware is handed that continues once more. -/
def refused : Outcome Unit := .error (.problem .nextRepeated)

namespace Pipeline

/-- Enter a station and all that come after it. -/
def traced (outer : Continuation) : Nat → List Middleware → Passage → Traced
  | station, stack, passage =>
      if station < passage.entered then ⟨[], refused, passage⟩
      else
        let entering := { passage with entered := station + 1 }
        let visited : Traced :=
          match stack with
          | [] => ⟨[], (outer entering).1, (outer entering).2⟩
          | middleware :: rest =>
              middleware.traced station (traced outer (station + 1) rest) entering
        ⟨.enter station :: (visited.marks ++ [.leave station visited.outcome]),
          visited.outcome, visited.passage⟩

/-- The run of a pipeline with its marks. -/
def trace (pipeline : Pipeline) (outer : Option Effect) (context : Context)
    (journal : List Value) : Traced :=
  traced (.ofEffect outer) 0 pipeline.stack ⟨context, journal, 0⟩

/-! ### Forgetting the marks -/

theorem run_traced (station : Nat) {next : Continuation} {marked : Passage → Traced}
    (same : ∀ passage, next passage = (marked passage).result) (middleware : Middleware)
    (passage : Passage) :
    middleware.run next passage = (middleware.traced station marked passage).result := by
  induction middleware generalizing passage with
  | done | fail fault => rfl
  | read rest induction => exact induction passage.context passage
  | write context rest induction => exact induction _
  | note entry rest induction => exact induction _
  | next rest induction =>
      rw [Middleware.run, same passage]
      exact induction (marked passage).outcome (marked passage).passage

theorem dispatch_eq_traced (outer : Continuation) (station : Nat) (stack : List Middleware)
    (passage : Passage) :
    dispatch outer station stack passage = (traced outer station stack passage).result := by
  induction stack generalizing station passage with
  | nil =>
      rw [dispatch, traced]
      split <;> rfl
  | cons middleware rest induction =>
      rw [dispatch, traced]
      split
      · rfl
      · exact run_traced station (induction (station + 1)) middleware _

theorem run_eq_trace (pipeline : Pipeline) (outer : Option Effect) (context : Context)
    (journal : List Value) :
    pipeline.run (.ofEffect outer) context journal =
      (pipeline.trace outer context journal).result :=
  dispatch_eq_traced ..

end Pipeline

/-! ### The form of the marks -/

/-- What a middleware does and is handed that continues again and again. -/
def refusals (station : Nat) : List Passage → List Mark
  | [] => []
  | passage :: again => .next station passage :: .back station refused passage ::
      refusals station again

/-- The marks of a run that enters a station: how far it comes, and what it leaves the
station with. -/
inductive Visit (count : Nat) : Nat → Nat → List Mark → Outcome Unit → Prop where
  /-- The outer continuation, or a middleware that does not continue. -/
  | last {station : Nat} {outcome : Outcome Unit} (inside : station ≤ count) :
      Visit count station station [.enter station, .leave station outcome] outcome
  | through {station reached : Nat} {marks : List Mark} {behind outcome : Outcome Unit}
      {before after : Passage} (visit : Visit count (station + 1) reached marks behind)
      (again : List Passage) :
      Visit count station reached
        (.enter station :: .next station before :: (marks ++ .back station behind after ::
          (refusals station again ++ [.leave station outcome]))) outcome

theorem Visit.bounds {count station reached : Nat} {marks : List Mark} {outcome : Outcome Unit}
    (visit : Visit count station reached marks outcome) :
    station ≤ reached ∧ reached ≤ count := by
  induction visit with
  | last inside => exact ⟨Nat.le_refl _, inside⟩
  | through _ _ inner => exact ⟨Nat.le_of_succ_le inner.1, inner.2⟩

section

variable {outer : Continuation} {station count : Nat} {rest : List Middleware}

/-- Once the next station was entered, a middleware is refused whenever it continues. -/
theorem exists_refusals (middleware : Middleware) (passage : Passage)
    (passed : station + 1 < passage.entered) :
    ∃ again,
      (middleware.traced station (Pipeline.traced outer (station + 1) rest) passage).marks =
        refusals station again ∧
      (middleware.traced station (Pipeline.traced outer (station + 1) rest)
        passage).passage.entered = passage.entered := by
  induction middleware generalizing passage with
  | done | fail fault => exact ⟨[], rfl, rfl⟩
  | read next induction => exact induction passage.context passage passed
  | write context next induction => exact induction { passage with context := context } passed
  | note entry next induction =>
      exact induction { passage with journal := passage.journal ++ [entry] } passed
  | next next induction =>
      have turned : Pipeline.traced outer (station + 1) rest passage = ⟨[], refused, passage⟩ := by
        rw [Pipeline.traced, if_pos passed]
      obtain ⟨again, marks, entered⟩ := induction refused passage passed
      refine ⟨passage :: again, ?_, ?_⟩
      · simp only [Middleware.traced, turned, marks, refusals, List.nil_append]
      · simpa only [Middleware.traced, turned] using entered

/-- The marks between entering and leaving a middleware, when all visits of the next station
are as they should be. -/
theorem exists_visited
    (visits : ∀ passage : Passage, passage.entered ≤ station + 1 →
      ∃ reached, Visit count (station + 1) reached
          (Pipeline.traced outer (station + 1) rest passage).marks
          (Pipeline.traced outer (station + 1) rest passage).outcome ∧
        (Pipeline.traced outer (station + 1) rest passage).passage.entered = reached + 1)
    (middleware : Middleware) (passage : Passage) (entered : passage.entered = station + 1) :
    let visited := middleware.traced station (Pipeline.traced outer (station + 1) rest) passage
    (∃ reached marks behind before after again, Visit count (station + 1) reached marks behind ∧
      visited.marks = .next station before :: (marks ++ .back station behind after ::
        refusals station again) ∧
      visited.passage.entered = reached + 1) ∨
    (visited.marks = [] ∧ visited.passage.entered = station + 1) := by
  induction middleware generalizing passage with
  | done | fail fault => exact .inr ⟨rfl, entered⟩
  | read next induction => exact induction passage.context passage entered
  | write context next induction => exact induction { passage with context := context } entered
  | note entry next induction =>
      exact induction { passage with journal := passage.journal ++ [entry] } entered
  | next next _ =>
      obtain ⟨reached, visit, far⟩ := visits passage (Nat.le_of_eq entered)
      have passed : station + 1 < reached + 1 := Nat.lt_succ_of_le visit.bounds.1
      obtain ⟨again, marks, kept⟩ := exists_refusals
        (next (Pipeline.traced outer (station + 1) rest passage).outcome)
        (Pipeline.traced outer (station + 1) rest passage).passage (far ▸ passed)
      refine .inl ⟨reached, _, _, passage,
        (Pipeline.traced outer (station + 1) rest passage).passage, again, visit, ?_,
        kept.trans far⟩
      simp only [Middleware.traced, marks]

/-- A run that may enter a station visits it. -/
theorem visit_traced (effect : Option Effect) (stack : List Middleware) (station : Nat)
    (passage : Passage) (fresh : passage.entered ≤ station) :
    ∃ reached, Visit (station + stack.length) station reached
        (Pipeline.traced (.ofEffect effect) station stack passage).marks
        (Pipeline.traced (.ofEffect effect) station stack passage).outcome ∧
      (Pipeline.traced (.ofEffect effect) station stack passage).passage.entered =
        reached + 1 := by
  induction stack generalizing station passage with
  | nil =>
      rw [Pipeline.traced, if_neg (Nat.not_lt.mpr fresh)]
      exact ⟨station, .last (Nat.le_refl station), Continuation.entered_ofEffect effect _⟩
  | cons middleware rest induction =>
      rw [Pipeline.traced, if_neg (Nat.not_lt.mpr fresh), List.length_cons,
        Nat.add_comm rest.length, ← Nat.add_assoc]
      rcases exists_visited (induction (station + 1)) middleware
          { passage with entered := station + 1 } rfl with
        ⟨reached, marks, behind, before, after, again, visit, same, far⟩ | ⟨same, far⟩
      · refine ⟨reached, ?_, far⟩
        simp only [same, List.cons_append, List.append_assoc]
        exact .through visit again
      · refine ⟨station, ?_, far⟩
        simp only [same, List.nil_append]
        exact .last (by omega)

end

/-! ### What a mark stands between -/

section

variable {count station reached : Nat} {marks before after : List Mark} {mark : Mark}
  {outcome : Outcome Unit}

theorem split_append {first second : List Mark}
    (whole : first ++ second = before ++ mark :: after) :
    (∃ between, first = before ++ mark :: between ∧ after = between ++ second) ∨
      ∃ between, before = first ++ between ∧ second = between ++ mark :: after := by
  rcases List.append_eq_append_iff.mp whole with ⟨between, early, late⟩ | ⟨between, early, late⟩
  · exact .inr ⟨between, early, late⟩
  · cases between with
    | nil => exact .inr ⟨[], by simpa using early.symm, late.symm⟩
    | cons next between =>
        obtain ⟨rfl, rfl⟩ := List.cons.inj late
        exact .inl ⟨between, early, rfl⟩

theorem split_pair {first last : Mark} (whole : [first, last] = before ++ mark :: after) :
    (mark = first ∧ before = []) ∨ (mark = last ∧ after = []) := by
  match before, whole with
  | [], whole =>
      obtain ⟨same, -⟩ := List.cons.inj whole
      exact .inl ⟨same.symm, rfl⟩
  | [_], whole =>
      obtain ⟨same, rest⟩ := List.cons.inj (List.cons.inj whole).2
      exact .inr ⟨same.symm, rest.symm⟩
  | _ :: _ :: _, whole => simp at whole

/-- The places of a mark in a station that is passed through. -/
theorem split_through {inner : List Mark} {again : List Passage} {behind : Outcome Unit}
    {ahead handed : Passage}
    (whole : .enter station :: .next station ahead :: (inner ++ .back station behind handed ::
      (refusals station again ++ [.leave station outcome])) = before ++ mark :: after) :
    (mark = .enter station ∧ before = []) ∨
    (mark = .next station ahead ∧ before = [.enter station] ∧
      after = inner ++ .back station behind handed ::
        (refusals station again ++ [.leave station outcome])) ∨
    (∃ start rest, inner = start ++ mark :: rest ∧
      before = .enter station :: .next station ahead :: start ∧
      after = rest ++ .back station behind handed ::
        (refusals station again ++ [.leave station outcome])) ∨
    mark = .back station behind handed ∨
    (∃ start rest, refusals station again = start ++ mark :: rest ∧
      .next station ahead ∈ before ∧ after = rest ++ [.leave station outcome]) ∨
    (mark = .leave station outcome ∧ after = []) := by
  have opened : ([.enter station, .next station ahead] : List Mark) ++
      (inner ++ .back station behind handed ::
        (refusals station again ++ [.leave station outcome])) = before ++ mark :: after := whole
  rcases split_append opened with ⟨rest, opening, rfl⟩ | ⟨start, rfl, body⟩
  · rcases split_pair opening with ⟨rfl, rfl⟩ | ⟨rfl, rfl⟩
    · exact .inl ⟨rfl, rfl⟩
    · refine .inr (.inl ⟨rfl, ?_, rfl⟩)
      have opened : [.enter station] ++ [.next station ahead] =
          before ++ [.next station ahead] := opening
      exact (List.append_inj_left' opened rfl).symm
  · rcases split_append body with ⟨rest, inside, rfl⟩ | ⟨start, rfl, closing⟩
    · exact .inr (.inr (.inl ⟨start, rest, inside, rfl, rfl⟩))
    · refine .inr (.inr (.inr ?_))
      cases start with
      | nil => exact .inl (List.cons.inj closing).1.symm
      | cons first start =>
          rcases split_append (List.cons.inj closing).2 with
            ⟨rest, inside, rfl⟩ | ⟨late, rfl, last⟩
          · exact .inr (.inl ⟨start, rest, inside, by simp, rfl⟩)
          · cases late with
            | nil =>
                obtain ⟨same, rest⟩ := List.cons.inj last
                exact .inr (.inr ⟨same.symm, rest.symm⟩)
            | cons first late => simp at last

theorem split_refusals {again : List Passage}
    (whole : refusals station again = before ++ mark :: after) :
    (∃ passage rest, mark = .next station passage ∧
      after = .back station refused passage :: rest) ∨
    ∃ passage, mark = .back station refused passage := by
  induction again generalizing before with
  | nil => simp [refusals] at whole
  | cons passage again induction =>
      match before, whole with
      | [], whole =>
          obtain ⟨same, rest⟩ := List.cons.inj whole
          exact .inl ⟨passage, _, same.symm, rest.symm⟩
      | [_], whole =>
          obtain ⟨same, -⟩ := List.cons.inj (List.cons.inj whole).2
          exact .inr ⟨passage, same.symm⟩
      | _ :: _ :: start, whole =>
          exact induction (List.cons.inj (List.cons.inj whole).2).2

/-! ### The marks of a visit, one kind after the other -/

theorem filterMap_refusals {Kind : Type} (kind : Mark → Option Kind) (station : Nat)
    (again : List Passage) (next : ∀ passage, kind (.next station passage) = none)
    (back : ∀ outcome passage, kind (.back station outcome passage) = none) :
    (refusals station again).filterMap kind = [] := by
  induction again with
  | nil => rfl
  | cons passage again induction =>
      rw [refusals, List.filterMap_cons_none (next passage),
        List.filterMap_cons_none (back refused passage), induction]

/-- Stations are entered one after the other, -/
theorem Visit.entered (visit : Visit count station reached marks outcome) :
    marks.filterMap Mark.entered? = List.range' station (reached + 1 - station) := by
  induction visit with
  | @last station _ _ =>
      rw [Nat.add_sub_cancel_left]
      rfl
  | @through station reached _ _ _ _ _ visit again induction =>
      have above := visit.bounds.1
      have longer : reached + 1 - station = reached + 1 - (station + 1) + 1 := by omega
      rw [longer, List.range'_succ, ← induction]
      simp [List.filterMap_cons, Mark.entered?,
        filterMap_refusals Mark.entered? station again (fun _ => rfl) (fun _ _ => rfl)]

/-- and are left in the opposite order. -/
theorem Visit.left (visit : Visit count station reached marks outcome) :
    marks.filterMap Mark.left? = (marks.filterMap Mark.entered?).reverse := by
  induction visit with
  | last _ => rfl
  | @through station _ _ _ _ _ _ _ again induction =>
      simp [List.filterMap_cons, Mark.left?, Mark.entered?, induction,
        filterMap_refusals Mark.entered? station again (fun _ => rfl) (fun _ _ => rfl),
        filterMap_refusals Mark.left? station again (fun _ => rfl) (fun _ _ => rfl)]

theorem refusals_station {again : List Passage} (member : mark ∈ refusals station again) :
    mark.station = station := by
  obtain ⟨before, after, whole⟩ := List.append_of_mem member
  rcases split_refusals whole with ⟨passage, rest, rfl, -⟩ | ⟨passage, rfl⟩ <;> rfl

theorem Visit.le_station (visit : Visit count station reached marks outcome)
    (member : mark ∈ marks) : station ≤ mark.station := by
  induction visit with
  | last _ =>
      rcases List.mem_cons.mp member with rfl | last
      · exact Nat.le_refl _
      · obtain rfl := List.mem_singleton.mp last
        exact Nat.le_refl _
  | through visit again induction =>
      obtain ⟨before, after, whole⟩ := List.append_of_mem member
      rcases split_through whole with ⟨rfl, -⟩ | ⟨rfl, -⟩ | ⟨start, rest, inside, -⟩ | rfl |
        ⟨start, rest, inside, -⟩ | ⟨rfl, -⟩
      · exact Nat.le_refl _
      · exact Nat.le_refl _
      · exact Nat.le_of_succ_le (induction (inside ▸ List.mem_append_cons_self))
      · exact Nat.le_refl _
      · exact Nat.le_of_eq (refusals_station (inside ▸ List.mem_append_cons_self)).symm
      · exact Nat.le_refl _

theorem Visit.head (visit : Visit count station reached marks outcome) :
    ∃ rest, marks = .enter station :: rest := by
  cases visit with
  | last _ => exact ⟨_, rfl⟩
  | through _ _ => exact ⟨_, rfl⟩

theorem Visit.leave_mem (visit : Visit count station reached marks outcome) :
    .leave station outcome ∈ marks := by
  cases visit <;> simp

/-- A middleware does not continue for those behind it. -/
theorem not_mem_behind {number : Nat} {ahead : Passage} {start : List Mark}
    (above : station < number) (fresh : ∀ earlier, .next number earlier ∉ start) :
    ∀ earlier, .next number earlier ∉ .enter station :: .next station ahead :: start := by
  intro earlier member
  have apart : number ≠ station := Nat.ne_of_gt above
  simp only [List.mem_cons, reduceCtorEq, Mark.next.injEq, apart, false_and, false_or] at member
  exact fresh earlier member

/-- Right before a later station is entered, the middleware before it continues, for the first
time. -/
theorem Visit.before_enter {entered : Nat} (visit : Visit count station reached marks outcome)
    (whole : marks = before ++ .enter entered :: after) :
    (entered = station ∧ before = []) ∨
    ∃ last start passage, entered = last + 1 ∧ station ≤ last ∧
      before = start ++ [.next last passage] ∧ ∀ earlier, .next last earlier ∉ start := by
  induction visit generalizing before after with
  | last _ =>
      rcases split_pair whole with ⟨same, rfl⟩ | ⟨same, -⟩
      · exact .inl ⟨Mark.enter.inj same, rfl⟩
      · cases same
  | @through station _ inner _ _ ahead _ visit again induction =>
      rcases split_through whole with ⟨same, rfl⟩ | ⟨same, -⟩ | ⟨start, rest, inside, rfl, -⟩ |
        same | ⟨start, rest, inside, -⟩ | ⟨same, -⟩
      · exact .inl ⟨Mark.enter.inj same, rfl⟩
      · cases same
      · right
        rcases induction inside with ⟨rfl, rfl⟩ | ⟨last, start, passage, rfl, above, rfl, fresh⟩
        · exact ⟨station, [.enter station], ahead, rfl, Nat.le_refl _, rfl, by simp⟩
        · exact ⟨last, .enter station :: .next station ahead :: start, passage, rfl,
            Nat.le_of_succ_le above, rfl, not_mem_behind above fresh⟩
      · cases same
      · rcases split_refusals inside with ⟨_, _, same, -⟩ | ⟨_, same⟩ <;> cases same
      · cases same

/-- A middleware that continues enters the next station when it is the first time, and is
handed a refusal otherwise. -/
theorem Visit.after_next {number : Nat} {passage : Passage}
    (visit : Visit count station reached marks outcome)
    (whole : marks = before ++ .next number passage :: after) :
    ((∀ earlier, .next number earlier ∉ before) ∧ ∃ rest, after = .enter (number + 1) :: rest) ∨
    ((∃ earlier, .next number earlier ∈ before) ∧
      ∃ rest, after = .back number refused passage :: rest) := by
  induction visit generalizing before after with
  | last _ => rcases split_pair whole with ⟨same, -⟩ | ⟨same, -⟩ <;> cases same
  | @through station _ inner _ _ ahead _ visit again induction =>
      rcases split_through whole with ⟨same, -⟩ | ⟨same, rfl, rfl⟩ |
        ⟨start, rest, inside, rfl, rfl⟩ | same | ⟨start, rest, inside, earlier, rfl⟩ | ⟨same, -⟩
      · cases same
      · obtain ⟨rfl, rfl⟩ := Mark.next.inj same
        obtain ⟨rest, rfl⟩ := visit.head
        exact .inl ⟨by simp, _, rfl⟩
      · rcases induction inside with ⟨fresh, rest, rfl⟩ | ⟨⟨earlier, member⟩, rest, rfl⟩
        · have among : .next number passage ∈ inner := inside ▸ List.mem_append_cons_self
          have above : station < number := visit.le_station among
          exact .inl ⟨not_mem_behind above fresh, _, rfl⟩
        · exact .inr ⟨⟨earlier, by simp [member]⟩, _, rfl⟩
      · cases same
      · rcases split_refusals inside with ⟨_, _, same, rfl⟩ | ⟨_, same⟩
        · obtain ⟨rfl, rfl⟩ := Mark.next.inj same
          exact .inr ⟨⟨ahead, earlier⟩, _, rfl⟩
        · cases same
      · cases same

/-- What a station is left with is what the middleware before it is handed. -/
theorem Visit.after_leave {number : Nat} {left : Outcome Unit}
    (visit : Visit count station reached marks outcome)
    (whole : marks = before ++ .leave number left :: after) :
    (number = station ∧ left = outcome ∧ after = []) ∨
    ∃ last passage rest, number = last + 1 ∧ station ≤ last ∧
      after = .back last left passage :: rest := by
  induction visit generalizing before after with
  | last _ =>
      rcases split_pair whole with ⟨same, -⟩ | ⟨same, rfl⟩
      · cases same
      · obtain ⟨rfl, rfl⟩ := Mark.leave.inj same
        exact .inl ⟨rfl, rfl, rfl⟩
  | @through station _ inner _ _ ahead _ visit again induction =>
      rcases split_through whole with ⟨same, -⟩ | ⟨same, -⟩ | ⟨start, rest, inside, -, rfl⟩ |
        same | ⟨start, rest, inside, -⟩ | ⟨same, rfl⟩
      · cases same
      · cases same
      · right
        rcases induction inside with ⟨rfl, rfl, rfl⟩ | ⟨last, passage, rest, rfl, above, rfl⟩
        · exact ⟨station, _, _, rfl, Nat.le_refl _, rfl⟩
        · exact ⟨last, passage, _, rfl, Nat.le_of_succ_le above, rfl⟩
      · cases same
      · rcases split_refusals inside with ⟨_, _, same, -⟩ | ⟨_, same⟩ <;> cases same
      · obtain ⟨rfl, rfl⟩ := Mark.leave.inj same
        exact .inl ⟨rfl, rfl, rfl⟩

/-! ### How far an error goes -/

/-- A middleware catches an error: it is handed it and is left with something else. -/
def Catches (marks : List Mark) (fault : Fault) (station : Nat) : Prop :=
  (∃ passage, .back station (.error fault) passage ∈ marks) ∧
    .leave station (.error fault) ∉ marks

theorem leave_of_not_catches {fault : Fault}
    (handed : ∃ passage, .back station (.error fault) passage ∈ marks)
    (free : ¬ Catches marks fault station) : .leave station (.error fault) ∈ marks :=
  Classical.byContradiction fun caught => free ⟨handed, caught⟩

theorem Visit.back_of_leave {fault : Fault} (visit : Visit count 0 reached marks outcome)
    {last : Nat} (left : .leave (last + 1) (.error fault) ∈ marks) :
    ∃ passage, .back last (.error fault) passage ∈ marks := by
  obtain ⟨before, after, rfl⟩ := List.append_of_mem left
  rcases visit.after_leave rfl with ⟨first, -⟩ | ⟨last, passage, rest, same, -, rfl⟩
  · exact absurd first (Nat.succ_ne_zero _)
  · obtain rfl := Nat.succ.inj same
    exact ⟨passage, by simp⟩

/-- An error that a station is left with goes on to the first station unless it is caught on
its way. -/
theorem Visit.escapes {fault : Fault} (visit : Visit count 0 reached marks outcome) {raised : Nat}
    (left : .leave raised (.error fault) ∈ marks) :
    (∀ passed ≤ raised, .leave passed (.error fault) ∈ marks) ↔
      ∀ enclosing < raised, ¬ Catches marks fault enclosing := by
  induction raised with
  | zero =>
      refine ⟨fun _ _ below => absurd below (Nat.not_lt_zero _), fun _ passed below => ?_⟩
      rwa [Nat.le_zero.mp below]
  | succ last induction =>
      constructor
      · intro all enclosing below caught
        exact caught.2 (all enclosing (Nat.le_of_lt below))
      · intro free passed below
        have onward : .leave last (.error fault) ∈ marks :=
          leave_of_not_catches (visit.back_of_leave left) (free last (Nat.lt_succ_self last))
        rcases Nat.lt_or_eq_of_le below with earlier | rfl
        · have uncaught : ∀ enclosing < last, ¬ Catches marks fault enclosing :=
            fun enclosing less => free enclosing (Nat.lt_succ_of_lt less)
          exact (induction onward).mpr uncaught passed (Nat.le_of_lt_succ earlier)
        · exact left

theorem Visit.error_iff {fault : Fault} (visit : Visit count 0 reached marks outcome) :
    outcome = .error fault ↔ .leave 0 (.error fault) ∈ marks := by
  constructor
  · rintro rfl
    exact visit.leave_mem
  · intro left
    obtain ⟨before, after, whole⟩ := List.append_of_mem left
    rcases visit.after_leave whole with ⟨-, same, -⟩ | ⟨last, _, _, same, -⟩
    · exact same.symm
    · exact absurd same.symm (Nat.succ_ne_zero last)

end

/-- What holds of the marks of every run over some number of middlewares that comes as far as
the station reached; the station behind the middlewares is the outer continuation. -/
structure Disciplined (count reached : Nat) (marks : List Mark) (outcome : Outcome Unit) :
    Prop where
  reached_le : reached ≤ count
  /-- The stations up to the one reached are entered, each once and in their order. -/
  entered : marks.filterMap Mark.entered? = List.range (reached + 1)
  left : marks.filterMap Mark.left? = (List.range (reached + 1)).reverse
  /-- The outer continuation runs behind all middlewares, and once at most. -/
  outer : ∀ {before after : List Mark}, marks = before ++ .enter count :: after →
    before.filterMap Mark.entered? = List.range count ∧ .enter count ∉ after
  /-- A station behind the first is entered as the middleware before it continues for the
  first time. -/
  entered_by : ∀ {before after : List Mark} {station : Nat},
    marks = before ++ .enter (station + 1) :: after →
    ∃ start passage, before = start ++ [.next station passage] ∧
      ∀ earlier, .next station earlier ∉ start
  enters : ∀ {before after : List Mark} {station : Nat} {passage : Passage},
    marks = before ++ .next station passage :: after →
    (∀ earlier, .next station earlier ∉ before) → ∃ rest, after = .enter (station + 1) :: rest
  /-- A middleware that continues again is refused at once, and nothing has changed. -/
  refuses : ∀ {before after : List Mark} {station : Nat} {earlier passage : Passage},
    marks = before ++ .next station passage :: after → .next station earlier ∈ before →
    ∃ rest, after = .back station (.error (.problem .nextRepeated)) passage :: rest
  /-- What a station is left with is handed to the middleware before it. -/
  handed : ∀ {before after : List Mark} {station : Nat} {left : Outcome Unit},
    marks = before ++ .leave (station + 1) left :: after →
    ∃ passage rest, after = .back station left passage :: rest
  escapes : ∀ {fault : Fault} {raised : Nat}, .leave raised (.error fault) ∈ marks →
    ((∀ passed ≤ raised, .leave passed (.error fault) ∈ marks) ↔
      ∀ enclosing < raised, ¬ Catches marks fault enclosing)
  /-- This is so of a refusal too, which the refused middleware may catch itself. -/
  escapes_back : ∀ {fault : Fault} {station : Nat} {passage : Passage},
    .back station (.error fault) passage ∈ marks →
    ((∀ passed ≤ station, .leave passed (.error fault) ∈ marks) ↔
      ∀ enclosing ≤ station, ¬ Catches marks fault enclosing)
  fails : ∀ {fault : Fault}, outcome = .error fault ↔
    ∃ raised, .leave raised (.error fault) ∈ marks ∧
      ∀ enclosing < raised, ¬ Catches marks fault enclosing

/-- The greatest member of a range ends it. -/
theorem range_eq_append {count size : Nat} {before after : List Nat} (most : size ≤ count + 1)
    (whole : List.range size = before ++ count :: after) :
    before = List.range count ∧ after = [] := by
  have member : count ∈ List.range size := whole ▸ List.mem_append_cons_self
  obtain rfl : size = count + 1 := Nat.le_antisymm most (List.mem_range.mp member)
  rw [List.range_succ] at whole
  rcases List.append_eq_append_iff.mp whole with ⟨between, early, late⟩ | ⟨between, early, late⟩
  · cases between with
    | nil => exact ⟨by simpa using early, (List.cons.inj late).2.symm⟩
    | cons first between => simp at late
  · cases between with
    | nil => exact ⟨by simpa using early.symm, (List.cons.inj late).2⟩
    | cons first between =>
        obtain ⟨rfl, -⟩ := List.cons.inj late
        have inRange : count ∈ List.range count := early ▸ List.mem_append_cons_self
        exact absurd (List.mem_range.mp inRange) (Nat.lt_irrefl count)

theorem Visit.disciplined {count reached : Nat} {marks : List Mark} {outcome : Outcome Unit}
    (visit : Visit count 0 reached marks outcome) : Disciplined count reached marks outcome where
  reached_le := visit.bounds.2
  entered := by rw [visit.entered, List.range_eq_range', Nat.sub_zero]
  left := by rw [visit.left, visit.entered, List.range_eq_range', Nat.sub_zero]
  outer := by
    intro before after whole
    have entered := visit.entered
    have opened : (Mark.enter count :: after).filterMap Mark.entered? =
        count :: after.filterMap Mark.entered? := List.filterMap_cons_some rfl
    rw [whole, List.filterMap_append, opened, Nat.sub_zero, ← List.range_eq_range'] at entered
    obtain ⟨early, late⟩ := range_eq_append (Nat.succ_le_succ visit.bounds.2) entered.symm
    refine ⟨early, fun again => ?_⟩
    have member : count ∈ after.filterMap Mark.entered? :=
      List.mem_filterMap.mpr ⟨_, again, rfl⟩
    rw [late] at member
    exact List.not_mem_nil member
  entered_by := by
    intro before after station whole
    rcases visit.before_enter whole with ⟨first, -⟩ | ⟨last, start, passage, same, -, rfl, fresh⟩
    · exact absurd first (Nat.succ_ne_zero station)
    · obtain rfl := Nat.succ.inj same
      exact ⟨start, passage, rfl, fresh⟩
  enters := by
    intro before after station passage whole fresh
    rcases visit.after_next whole with ⟨-, entering⟩ | ⟨⟨earlier, member⟩, -⟩
    · exact entering
    · exact absurd member (fresh earlier)
  refuses := by
    intro before after station earlier passage whole member
    rcases visit.after_next whole with ⟨fresh, -⟩ | ⟨-, turned⟩
    · exact absurd member (fresh earlier)
    · exact turned
  handed := by
    intro before after station left whole
    rcases visit.after_leave whole with ⟨first, -⟩ | ⟨last, passage, rest, same, -, rfl⟩
    · exact absurd first (Nat.succ_ne_zero station)
    · obtain rfl := Nat.succ.inj same
      exact ⟨passage, rest, rfl⟩
  escapes left := visit.escapes left
  escapes_back := by
    intro fault station passage member
    constructor
    · intro all enclosing below caught
      exact caught.2 (all enclosing below)
    · intro free
      have left : .leave station (.error fault) ∈ marks :=
        leave_of_not_catches ⟨passage, member⟩ (free station (Nat.le_refl station))
      exact (visit.escapes left).mpr fun enclosing below => free enclosing (Nat.le_of_lt below)
  fails := by
    intro fault
    rw [visit.error_iff]
    constructor
    · intro left
      exact ⟨0, left, fun _ below => absurd below (Nat.not_lt_zero _)⟩
    · rintro ⟨raised, left, free⟩
      exact (visit.escapes left).mpr free 0 (Nat.zero_le raised)

/-- Every run is disciplined, and its marks tell of the run itself: what it comes to and what
its count of stations says. -/
theorem Pipeline.run_disciplined (pipeline : Pipeline) (outer : Option Effect)
    (context : Context) (journal : List Value) :
    ∃ reached, pipeline.run (.ofEffect outer) context journal =
        (pipeline.trace outer context journal).result ∧
      (pipeline.run (.ofEffect outer) context journal).2.entered = reached + 1 ∧
      Disciplined pipeline.length reached (pipeline.trace outer context journal).marks
        (pipeline.trace outer context journal).outcome := by
  obtain ⟨reached, visit, far⟩ :=
    visit_traced outer pipeline.stack 0 ⟨context, journal, 0⟩ (Nat.le_refl 0)
  rw [Nat.zero_add] at visit
  have same := pipeline.run_eq_trace outer context journal
  refine ⟨reached, same, ?_, visit.disciplined⟩
  rw [same]
  exact far

/-- A middleware that tries again after a failure that it caught. -/
example (context : Context) :
    let again : Middleware := .next fun _ => .next fun _ => .done
    let failing : Middleware := .fail (.problem Pipeline.notAList)
    (Pipeline.mk [again, failing]).trace none context [] =
      ⟨[.enter 0, .next 0 ⟨context, [], 1⟩, .enter 1,
        .leave 1 (.error (.problem Pipeline.notAList)),
        .back 0 (.error (.problem Pipeline.notAList)) ⟨context, [], 2⟩,
        .next 0 ⟨context, [], 2⟩, .back 0 (.error (.problem .nextRepeated)) ⟨context, [], 2⟩,
        .leave 0 (.ok ())], .ok (), ⟨context, [], 2⟩⟩ := rfl

end PageComposer
