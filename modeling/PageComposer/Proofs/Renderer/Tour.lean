import PageComposer.Proofs.Renderer.Walks

/-!
# The way around a forest

Whoever goes around a forest enters each node before the nodes below it and leaves it after
them.  `tour` lists the steps of this way, each with the place of its node, and `Step.take`
says what a renderer does at a step that knows nothing but the nodes it is inside of.
`travel` takes steps until the first one that fails.
-/

namespace PageComposer

namespace RenderBody

/-- A body that never touches the registry. -/
inductive Quiet : RenderBody → Prop where
  | give (result : Rendered) : Quiet (.give result)
  | fail (fault : Fault) : Quiet (.fail fault)
  | note (entry : Value) {rest : RenderBody} (quiet : Quiet rest) : Quiet (.note entry rest)
  | types {rest : List String → RenderBody} (quiet : ∀ ids, Quiet (rest ids)) :
      Quiet (.types rest)
  | pause {rest : RenderBody} (quiet : Quiet rest) : Quiet (.pause rest)

/-- What a body comes to when these ids are registered. -/
def result (ids : List String) : RenderBody → Outcome Rendered
  | .give result => .ok result
  | .fail fault => .error fault
  | .note _ rest => result ids rest
  | .types rest => result ids (rest ids)
  | .setAllowlist _ rest => result ids (rest (.ok ()))
  | .pause rest => result ids rest

/-- What a body writes down when these ids are registered. -/
def notes (ids : List String) : RenderBody → List Value
  | .give _ | .fail _ => []
  | .note entry rest => entry :: notes ids rest
  | .types rest => notes ids (rest ids)
  | .setAllowlist _ rest => notes ids (rest (.ok ()))
  | .pause rest => notes ids rest

end RenderBody

namespace Renderer

/-- Where a node stands in a forest: its index among its siblings, the index of the node
above it among its siblings, and so on up to a root. -/
abbrev Place := List Nat

/-- The nodes directly below a place; at no place at all these are the roots. -/
def nodesBelow (forest : List Value) : Place → List Value
  | [] => forest
  | index :: above => (((nodesBelow forest above)[index]?).map Value.childNodes).getD []

def nodeAt? (forest : List Value) : Place → Option Value
  | [] => none
  | index :: above => (nodesBelow forest above)[index]?

inductive Step where
  | enter (place : Place) (node : Value)
  | leave (place : Place) (node : Value)

def Step.node : Step → Value
  | .enter _ node | .leave _ node => node

/-- The places that are left at steps. -/
def left (steps : List Step) : List Place :=
  steps.filterMap fun
    | .leave place _ => some place
    | .enter .. => none

@[simp] theorem left_nil : left [] = [] := rfl

@[simp] theorem left_enter (place : Place) (node : Value) (rest : List Step) :
    left (.enter place node :: rest) = left rest := rfl

@[simp] theorem left_leave (place : Place) (node : Value) (rest : List Step) :
    left (.leave place node :: rest) = place :: left rest := rfl

@[simp] theorem left_append (first second : List Step) :
    left (first ++ second) = left first ++ left second := List.filterMap_append ..

theorem sizeOf_childNodes_lt (tree : Value) (rest : List Value) :
    sizeOf tree.childNodes < sizeOf (tree :: rest) := by
  have small : sizeOf tree.childNodes ≤ sizeOf tree := by
    cases tree with
    | object fields =>
        simp only [Value.childNodes]
        split
        · rename_i items found
          have entrySize := List.sizeOf_lt_of_mem (Fields.mem_of_get? found)
          simp only [Prod.mk.sizeOf_spec, Value.list.sizeOf_spec] at entrySize
          simp only [Value.object.sizeOf_spec]
          omega
        · simp
    | _ => simp [Value.childNodes]
  simp only [List.cons.sizeOf_spec]
  omega

/-- The way around siblings, the first of which has an index, and all that is below them. -/
def tour (above : Place) (index : Nat) : List Value → List Step
  | [] => []
  | node :: rest =>
      .enter (index :: above) node :: (tour (index :: above) 0 node.childNodes ++
        .leave (index :: above) node :: tour above (index + 1) rest)
termination_by forest => sizeOf forest
decreasing_by
  · exact sizeOf_childNodes_lt node rest
  · simp only [List.cons.sizeOf_spec]
    omega

theorem left_tour_cons (above : Place) (index : Nat) (node : Value) (rest : List Value) :
    left (tour above index (node :: rest)) =
      left (tour (index :: above) 0 node.childNodes) ++
        (index :: above) :: left (tour above (index + 1) rest) := by
  rw [tour, left_enter, left_append, left_leave]

/-- The places of a forest, each behind those below it and the siblings before it. -/
def postorder (forest : List Value) : List Place := left (tour [] 0 forest)

/-! ### The nodes on the way -/

theorem node_of_mem_tour {above : Place} {index : Nat} {forest : List Value} {step : Step}
    (member : step ∈ tour above index forest) : ∃ root ∈ forest, step.node ∈ root.nodes := by
  induction forest using Value.forestInduction generalizing above index with
  | nil => simp [tour] at member
  | cons node rest below others =>
      simp only [tour, List.mem_cons, List.mem_append] at member
      rcases member with rfl | inside | rfl | later
      · exact ⟨node, by simp, Value.mem_nodes_iff.mpr (.inl rfl)⟩
      · obtain ⟨child, among, found⟩ := below inside
        exact ⟨node, by simp, Value.mem_nodes_iff.mpr (.inr ⟨child, among, found⟩)⟩
      · exact ⟨node, by simp, Value.mem_nodes_iff.mpr (.inl rfl)⟩
      · obtain ⟨root, among, found⟩ := others later
        exact ⟨root, List.mem_cons_of_mem node among, found⟩

theorem mem_tour_of_mem_nodes (above : Place) (index : Nat) {forest : List Value}
    {root node : Value} (among : root ∈ forest) (inside : node ∈ root.nodes) :
    ∃ place, Step.enter place node ∈ tour above index forest ∧
      Step.leave place node ∈ tour above index forest := by
  induction forest using Value.forestInduction generalizing root above index with
  | nil => simp at among
  | cons first rest below others =>
      simp only [tour, List.mem_cons, List.mem_append]
      rcases List.mem_cons.mp among with rfl | later
      · rcases Value.mem_nodes_iff.mp inside with rfl | ⟨child, member, deeper⟩
        · exact ⟨index :: above, .inl rfl, .inr (.inr (.inl rfl))⟩
        · obtain ⟨place, entered, left⟩ := below (index :: above) 0 member deeper
          exact ⟨place, .inr (.inl entered), .inr (.inl left)⟩
      · obtain ⟨place, entered, left⟩ := others above (index + 1) later inside
        exact ⟨place, .inr (.inr (.inr entered)), .inr (.inr (.inr left))⟩

/-! ### Places -/

theorem suffix_of_mem_tour {above : Place} {index : Nat} {forest : List Value} {place : Place}
    (member : place ∈ left (tour above index forest)) :
    ∃ other, index ≤ other ∧ (other :: above) <:+ place := by
  induction forest using Value.forestInduction generalizing above index with
  | nil => simp [tour] at member
  | cons node rest below others =>
      rw [left_tour_cons, List.mem_append, List.mem_cons] at member
      rcases member with inside | rfl | later
      · obtain ⟨other, -, suffix⟩ := below inside
        exact ⟨index, Nat.le_refl index, (List.suffix_cons other _).trans suffix⟩
      · exact ⟨index, Nat.le_refl index, List.suffix_refl _⟩
      · obtain ⟨other, after, suffix⟩ := others later
        exact ⟨other, Nat.le_of_succ_le after, suffix⟩

theorem index_eq_of_suffix {first second : Nat} {above place : Place}
    (left : (first :: above) <:+ place) (right : (second :: above) <:+ place) :
    first = second := by
  have same : first :: above = second :: above :=
    (List.suffix_of_suffix_length_le left right (Nat.le_refl _)).eq_of_length rfl
  exact (List.cons.inj same).1

theorem nodup_left_tour (above : Place) (index : Nat) (forest : List Value) :
    (left (tour above index forest)).Nodup := by
  induction forest using Value.forestInduction generalizing above index with
  | nil => simp [tour]
  | cons node rest below others =>
      rw [left_tour_cons, List.nodup_append, List.nodup_cons]
      refine ⟨below _ 0, ⟨?_, others _ _⟩, ?_⟩
      · intro later
        obtain ⟨other, after, suffix⟩ := suffix_of_mem_tour later
        have same := index_eq_of_suffix suffix (List.suffix_refl _)
        omega
      · intro place inside other member same
        subst same
        obtain ⟨deeper, -, suffix⟩ := suffix_of_mem_tour inside
        rcases List.mem_cons.mp member with rfl | later
        · have longer := suffix.length_le
          simp only [List.length_cons] at longer
          omega
        · obtain ⟨other, after, beside⟩ := suffix_of_mem_tour later
          have same := index_eq_of_suffix ((List.suffix_cons _ _).trans suffix) beside
          omega

theorem nodup_postorder (forest : List Value) : (postorder forest).Nodup :=
  nodup_left_tour [] 0 forest

/-! ### Taking steps -/

/-- A plugin that is called for the node at a place, and what it writes down. -/
structure Call where
  place : Place
  args : RenderArgs
  notes : List Value

/-- A node that has been entered and not left: its plugin, and the markup of the nodes below
it that have been left. -/
structure Opened where
  body : RenderArgs → RenderBody
  markup : String

structure Progress where
  /-- The nodes that have been entered and not left, the last one first. -/
  opened : List Opened
  /-- The markup of the roots that have been left. -/
  markup : String

namespace Progress

def start : Progress := ⟨[], ""⟩

/-- Put the markup of a node that is left behind that of its siblings. -/
def put (own : String) : Progress → Progress
  | ⟨[], markup⟩ => ⟨[], markup ++ own⟩
  | ⟨top :: outer, markup⟩ => ⟨{ top with markup := top.markup ++ own } :: outer, markup⟩

theorem put_opened (own : String) (top : Opened) (outer : List Opened) (markup : String) :
    put own ⟨top :: outer, markup⟩ = ⟨{ top with markup := top.markup ++ own } :: outer, markup⟩ :=
  rfl

@[simp] theorem put_empty (progress : Progress) : progress.put "" = progress := by
  rcases progress with ⟨_ | ⟨top, outer⟩, markup⟩ <;> simp [put]

theorem put_put (first second : String) (progress : Progress) :
    (progress.put first).put second = progress.put (first ++ second) := by
  rcases progress with ⟨_ | ⟨top, outer⟩, markup⟩ <;> simp [put, String.append_assoc]

end Progress

/-- Enter a node, or leave it and call its plugin with the markup of the nodes below it; with
the call if there is one. -/
def Step.take (registry : Registry) (context : RenderContext) (progress : Progress) :
    Step → Outcome Progress × List Call
  | .enter _ (.object fields) =>
      match admission registry (Value.object fields).typeOf (paramsOf fields) with
      | .ok body => (.ok { progress with opened := ⟨body, ""⟩ :: progress.opened }, [])
      | .error fault => (.error fault, [])
  | .leave place (.object fields) =>
      match progress with
      | ⟨top :: outer, markup⟩ =>
          let args : RenderArgs := ⟨fields, paramsOf fields, top.markup, context⟩
          let call : Call := ⟨place, args, (top.body args).notes registry.types⟩
          match textOf (Value.object fields).typeOf ((top.body args).result registry.types) with
          | .ok own => (.ok (Progress.put own ⟨outer, markup⟩), [call])
          | .error fault => (.error fault, [call])
      | ⟨[], _⟩ => (.error .notAnObject, [])
  | .enter .. | .leave .. => (.error .notAnObject, [])

/-- Take steps up to the first one that fails, with all calls on the way. -/
def travel (registry : Registry) (context : RenderContext) :
    List Step → Progress → Outcome Progress × List Call
  | [], progress => (.ok progress, [])
  | step :: rest, progress =>
      match step.take registry context progress with
      | (.error fault, calls) => (.error fault, calls)
      | (.ok after, calls) =>
          ((travel registry context rest after).1, calls ++ (travel registry context rest after).2)

/-- What comes of going around a forest, and the calls on the way. -/
def travelAround (registry : Registry) (context : RenderContext) (forest : List Value) :
    Outcome String × List Call :=
  let (outcome, calls) := travel registry context (tour [] 0 forest) .start
  (outcome.map Progress.markup, calls)

section

variable {registry : Registry} {context : RenderContext}

theorem travel_append_ok {first second : List Step} {progress after : Progress}
    {calls : List Call} (passed : travel registry context first progress = (.ok after, calls)) :
    travel registry context (first ++ second) progress =
      ((travel registry context second after).1,
        calls ++ (travel registry context second after).2) := by
  induction first generalizing progress calls with
  | nil =>
      obtain ⟨rfl, rfl⟩ : progress = after ∧ [] = calls := by simpa [travel] using passed
      rfl
  | cons step rest induction =>
      rw [List.cons_append, travel]
      rw [travel] at passed
      rcases taken : step.take registry context progress with ⟨fault | between, own⟩
      · simp [taken] at passed
      · simp only [taken, Prod.mk.injEq] at passed
        obtain ⟨onward, rfl⟩ := passed
        rcases came : travel registry context rest between with ⟨outcome, later⟩
        rw [came] at onward
        subst onward
        simp only [induction came, List.append_assoc]

theorem travel_append_error {first second : List Step} {progress : Progress}
    {fault : Fault} {calls : List Call}
    (failed : travel registry context first progress = (.error fault, calls)) :
    travel registry context (first ++ second) progress = (.error fault, calls) := by
  induction first generalizing progress calls with
  | nil => simp [travel] at failed
  | cons step rest induction =>
      rw [List.cons_append, travel]
      rw [travel] at failed
      rcases taken : step.take registry context progress with ⟨other | between, own⟩
      · simpa [taken] using failed
      · simp only [taken, Prod.mk.injEq] at failed
        obtain ⟨onward, rfl⟩ := failed
        rcases came : travel registry context rest between with ⟨outcome, later⟩
        rw [came] at onward
        subst onward
        simp only [induction came]

/-- A step calls for the node that it leaves, if it does not fail before. -/
theorem Step.take_places (registry : Registry) (context : RenderContext) (step : Step)
    (progress : Progress) :
    (step.take registry context progress).2.map Call.place = left [step] ∨
      ∃ fault, step.take registry context progress = (.error fault, []) := by
  cases step with
  | enter place node =>
      left
      cases node with
      | object fields =>
          simp only [Step.take]
          split <;> rfl
      | _ => rfl
  | leave place node =>
      cases node with
      | object fields =>
          rcases progress with ⟨_ | ⟨top, outer⟩, markup⟩
          · exact .inr ⟨.notAnObject, rfl⟩
          · left
            simp only [Step.take]
            split <;> rfl
      | _ => exact .inr ⟨.notAnObject, rfl⟩

/-- On a way that comes to its end each node that is left is called for, and no other. -/
theorem travel_ok_places {steps : List Step} {progress reached : Progress} {calls : List Call}
    (passed : travel registry context steps progress = (.ok reached, calls)) :
    calls.map Call.place = left steps := by
  induction steps generalizing progress calls with
  | nil =>
      obtain ⟨-, rfl⟩ : progress = reached ∧ [] = calls := by simpa [travel] using passed
      rfl
  | cons step rest induction =>
      rw [travel] at passed
      rcases taken : step.take registry context progress with ⟨fault | between, own⟩
      · simp [taken] at passed
      · simp only [taken, Prod.mk.injEq] at passed
        obtain ⟨onward, rfl⟩ := passed
        have later := induction (Prod.ext onward rfl)
        rcases Step.take_places registry context step progress with
          own | ⟨fault, failed⟩
        · rw [taken] at own
          rw [List.map_append, own, later, ← left_append, List.singleton_append]
        · simp [taken] at failed

/-- The step at which a way ends that does not come to its end. -/
theorem exists_failing_step {steps : List Step} {progress : Progress} {fault : Fault}
    {calls : List Call} (failed : travel registry context steps progress = (.error fault, calls)) :
    ∃ before step after reached done last, steps = before ++ step :: after ∧
      travel registry context before progress = (.ok reached, done) ∧
      step.take registry context reached = (.error fault, last) ∧ calls = done ++ last := by
  induction steps generalizing progress calls with
  | nil => simp [travel] at failed
  | cons step rest induction =>
      rw [travel] at failed
      rcases taken : step.take registry context progress with ⟨other | between, own⟩
      · simp only [taken, Prod.mk.injEq, Except.error.injEq] at failed
        obtain ⟨rfl, rfl⟩ := failed
        exact ⟨[], step, rest, progress, [], own, rfl, rfl, taken, rfl⟩
      · simp only [taken, Prod.mk.injEq] at failed
        obtain ⟨onward, rfl⟩ := failed
        rcases came : travel registry context rest between with ⟨outcome, later⟩
        rw [came] at onward
        subst onward
        obtain ⟨before, last, after, reached, done, own', rfl, passed, stopped, rfl⟩ :=
          induction came
        refine ⟨step :: before, last, after, reached, own ++ done, own', rfl, ?_, stopped,
          (List.append_assoc ..).symm⟩
        simp only [travel, taken, passed]

/-- Nodes are called for in the order in which they are left. -/
theorem travel_places {steps : List Step} {progress : Progress} {outcome : Outcome Progress}
    {calls : List Call} (traveled : travel registry context steps progress = (outcome, calls)) :
    calls.map Call.place <+: left steps := by
  cases outcome with
  | ok reached => exact ⟨[], by rw [List.append_nil, travel_ok_places traveled]⟩
  | error fault =>
      obtain ⟨before, step, after, reached, done, last, rfl, passed, stopped, rfl⟩ :=
        exists_failing_step traveled
      rw [List.map_append, travel_ok_places passed, left_append, List.prefix_append_right_inj,
        ← List.singleton_append, left_append]
      rcases Step.take_places registry context step reached with
        own | ⟨fault, failed⟩
      · rw [stopped] at own
        rw [own]
        exact List.prefix_append ..
      · obtain rfl : last = [] := by simp_all
        exact List.nil_prefix

end

end Renderer

end PageComposer
