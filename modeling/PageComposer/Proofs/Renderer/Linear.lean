import PageComposer.Proofs.Page.Grammar
import PageComposer.Proofs.Renderer.Tour

/-!
# Rendering as a way around

The renderer walks down a tree and up again.  With plugins that leave the registry alone it
does what `travelAround` does step by step: it comes to the same text or the same fault, and
calls the same plugins in the same order, whoever watches the calls.

`Journey` says what can come of going around a forest, one rule for each way on.  What holds
of the calls is read off these rules.
-/

namespace PageComposer

/-- No plugin touches the registry. -/
def Registry.Quiet (registry : Registry) : Prop :=
  ∀ registration ∈ registry.registrations, ∀ body, registration.plugin.body = some body →
    ∀ args, (body args).Quiet

/-- A registration whose plugin writes something down about what it is given, and then does
what it did before. -/
def Registration.watched (watch : RenderArgs → Value) (registration : Registration) :
    Registration :=
  { registration with plugin := { registration.plugin with
      body := registration.plugin.body.map fun body args => .note (watch args) (body args) } }

def Registry.watched (watch : RenderArgs → Value) (registry : Registry) : Registry :=
  { registry with registrations := registry.registrations.map (Registration.watched watch) }

theorem Registry.Quiet.watched {registry : Registry} (quiet : registry.Quiet)
    (watch : RenderArgs → Value) : (registry.watched watch).Quiet := by
  intro registration member body hasBody args
  obtain ⟨original, among, rfl⟩ := List.mem_map.mp member
  obtain ⟨given, hasGiven, rfl⟩ := Option.map_eq_some_iff.mp hasBody
  exact .note (watch args) (quiet original among given hasGiven args)

theorem Registry.types_watched (watch : RenderArgs → Value) (registry : Registry) :
    (registry.watched watch).types = registry.types := by
  simp [types, watched, Registration.watched, Function.comp_def]

theorem Registry.find?_watched (watch : RenderArgs → Value) (registry : Registry) (id : String) :
    (registry.watched watch).find? id =
      (registry.find? id).map (Registration.watched watch) := by
  simp only [find?, watched, List.find?_map]
  rfl

/-- A node is let in: its type is allowed, there is a plugin that can render it, and its
params are valid. -/
structure Registry.Admits (registry : Registry) (fields : Fields) : Prop where
  allowed : registry.isAllowed (Fields.getD fields "type") = .ok true
  renderable : ∃ registration, registry.lookup (Fields.getD fields "type") =
    .ok (some registration) ∧ registration.plugin.renderable = true
  valid : registry.validateParams (Fields.getD fields "type") (Renderer.paramsOf fields) = .ok ()

/-- A session in which entries have been written down. -/
def Session.noted (entries : List Value) (session : Session) : Session :=
  { session with hub := { session.hub with journal := session.hub.journal ++ entries } }

theorem Session.noted_nil (session : Session) : session.noted [] = session := by
  simp [noted]

theorem Session.noted_noted (first second : List Value) (session : Session) :
    (session.noted first).noted second = session.noted (first ++ second) := by
  simp [noted, List.append_assoc]

theorem Session.noted_cons (entry : Value) (entries : List Value) (session : Session) :
    session.noted (entry :: entries) =
      Session.noted entries { session with hub := session.hub.write entry } := by
  simp [noted, Hub.write, List.append_assoc]

namespace Renderer

theorem admits_of_admission {registry : Registry} {fields : Fields}
    {body : RenderArgs → RenderBody}
    (admitted : admission registry (Value.object fields).typeOf (paramsOf fields) = .ok body) :
    registry.Admits fields := by
  obtain ⟨allowed, valid, id, registration, named, found, hasBody⟩ := admission_ok_iff.mp admitted
  have named : Fields.getD fields "type" = .str id := named
  refine ⟨allowed, ⟨registration, ?_, ?_⟩, valid⟩
  · rw [named, Registry.lookup, found]
  · rw [Plugin.renderable, hasBody, Option.isSome_some]

theorem admission_watched {registry : Registry} (watch : RenderArgs → Value)
    (type params : Value) :
    admission (registry.watched watch) type params =
      (admission registry type params).map fun body args => .note (watch args) (body args) := by
  have allowed : (registry.watched watch).isAllowed type = registry.isAllowed type := rfl
  have valid : (registry.watched watch).validateParams type params =
    registry.validateParams type params := rfl
  have found : (registry.watched watch).lookup type =
      (registry.lookup type).map (Option.map (Registration.watched watch)) := by
    cases type with
    | str id => simp only [Registry.lookup, Registry.find?_watched, Except.map]
    | _ => rfl
  rw [admission, admission, allowed, found, valid]
  rcases registry.isAllowed type with fault | ⟨⟩ | ⟨⟩
  · rfl
  · rfl
  · rcases registry.lookup type with fault | _ | ⟨id, ⟨_, _, _, _ | body⟩, metadata⟩
    · rfl
    · rfl
    · rfl
    · rcases registry.validateParams type params with fault | ⟨⟩ <;> rfl

/-- No plugin that can be called for a node of a forest touches the registry. -/
def QuietFor (registry : Registry) (forest : List Value) : Prop :=
  ∀ root ∈ forest, ∀ node ∈ root.nodes, ∀ params body,
    admission registry node.typeOf params = .ok body → ∀ args, (body args).Quiet

theorem quietFor_of_quiet {registry : Registry} (quiet : registry.Quiet) (forest : List Value) :
    QuietFor registry forest := by
  intro root _ node _ params body admitted args
  obtain ⟨-, -, id, registration, -, found, hasBody⟩ := admission_ok_iff.mp admitted
  exact quiet registration (List.mem_of_find?_eq_some found) body hasBody args

section

variable {registry : Registry} {node : Value} {rest : List Value}
  (quiet : QuietFor registry (node :: rest))

include quiet

theorem QuietFor.head {params : Value} {body : RenderArgs → RenderBody}
    (admitted : admission registry node.typeOf params = .ok body) (args : RenderArgs) :
    (body args).Quiet :=
  quiet node (by simp) node (Value.mem_nodes_iff.mpr (.inl rfl)) params body admitted args

theorem QuietFor.below : QuietFor registry node.childNodes := by
  intro child member inner inside
  exact quiet node (by simp) inner (Value.mem_nodes_iff.mpr (.inr ⟨child, member, inside⟩))

theorem QuietFor.tail : QuietFor registry rest :=
  fun root member => quiet root (List.mem_cons_of_mem node member)

end

/-- Nodes stand at a place, and the one that does is let in. -/
def LetIn (registry : Registry) (forest : List Value) (place : Place) : Prop :=
  ∃ fields, nodeAt? forest place = some (.object fields) ∧ registry.Admits fields

/-- A call, with what is written down about it first. -/
def Call.watched (watch : RenderArgs → Value) (call : Call) : Call :=
  { call with notes := watch call.args :: call.notes }

/-! ### Journeys -/

/-- What can come of going around siblings, the first of which has an index: the calls on the
way, and the markup or a fault. -/
inductive Journey (registry : Registry) (context : RenderContext) :
    Place → Nat → List Value → List Call → Outcome String → Prop where
  | done {above : Place} {index : Nat} : Journey registry context above index [] [] (.ok "")
  | refused {above : Place} {index : Nat} {fields : Fields} {rest : List Value} {fault : Fault}
      (refusal : admission registry (Value.object fields).typeOf (paramsOf fields) =
        .error fault) :
      Journey registry context above index (.object fields :: rest) [] (.error fault)
  | failedBelow {above : Place} {index : Nat} {fields : Fields} {rest children : List Value}
      {body : RenderArgs → RenderBody} {inner : List Call} {fault : Fault}
      (admitted : admission registry (Value.object fields).typeOf (paramsOf fields) = .ok body)
      (shaped : childItems fields = .ok children)
      (below : Journey registry context (index :: above) 0 children inner (.error fault)) :
      Journey registry context above index (.object fields :: rest) inner (.error fault)
  | failedLeaving {above : Place} {index : Nat} {fields : Fields} {rest children : List Value}
      {body : RenderArgs → RenderBody} {inner : List Call} {markup : String} {args : RenderArgs}
      {fault : Fault}
      (admitted : admission registry (Value.object fields).typeOf (paramsOf fields) = .ok body)
      (shaped : childItems fields = .ok children)
      (below : Journey registry context (index :: above) 0 children inner (.ok markup))
      (given : args = ⟨fields, paramsOf fields, markup, context⟩)
      (failed : textOf (Value.object fields).typeOf ((body args).result registry.types) =
        .error fault) :
      Journey registry context above index (.object fields :: rest)
        (inner ++ [⟨index :: above, args, (body args).notes registry.types⟩]) (.error fault)
  | left {above : Place} {index : Nat} {fields : Fields} {rest children : List Value}
      {body : RenderArgs → RenderBody} {inner later : List Call} {markup own : String}
      {args : RenderArgs} {outcome : Outcome String}
      (admitted : admission registry (Value.object fields).typeOf (paramsOf fields) = .ok body)
      (shaped : childItems fields = .ok children)
      (below : Journey registry context (index :: above) 0 children inner (.ok markup))
      (given : args = ⟨fields, paramsOf fields, markup, context⟩)
      (gave : textOf (Value.object fields).typeOf ((body args).result registry.types) = .ok own)
      (others : Journey registry context above (index + 1) rest later outcome) :
      Journey registry context above index (.object fields :: rest)
        (inner ++ ⟨index :: above, args, (body args).notes registry.types⟩ :: later)
        (outcome.map (own ++ ·))

/-- Each value in the forest is a node, and so are the values below it. -/
def NodesOnly (forest : List Value) : Prop :=
  ∀ item ∈ forest, ∃ reading, Node.Grammar reading item

theorem NodesOnly.head {item : Value} {rest : List Value} (nodes : NodesOnly (item :: rest)) :
    ∃ fields, item = .object fields ∧ childItems fields = .ok item.childNodes ∧
      NodesOnly item.childNodes := by
  obtain ⟨reading, grammar⟩ := nodes item (by simp)
  cases grammar with
  | @node reading inside fields params type room hasType proper readable keyText hasParams
      childrenList known below =>
      refine ⟨fields, rfl, ?_, fun child member => ⟨inside, below child member⟩⟩
      cases found : Fields.get? fields "children" with
      | none => simp [childItems, Value.childNodes, found]
      | some value =>
          obtain ⟨items, rfl⟩ := childrenList value found
          simp [childItems, Value.childNodes, found]

theorem NodesOnly.tail {item : Value} {rest : List Value} (nodes : NodesOnly (item :: rest)) :
    NodesOnly rest := fun other member => nodes other (List.mem_cons_of_mem item member)

section

variable {registry : Registry} {context : RenderContext}

theorem exists_journey {forest : List Value} (nodes : NodesOnly forest) (above : Place)
    (index : Nat) : ∃ calls outcome, Journey registry context above index forest calls outcome := by
  induction forest using Value.forestInduction generalizing above index with
  | nil => exact ⟨[], .ok "", .done⟩
  | cons node rest below others =>
      obtain ⟨fields, rfl, shaped, inside⟩ := nodes.head
      rcases admitted : admission registry (Value.object fields).typeOf (paramsOf fields) with
        fault | body
      · exact ⟨_, _, .refused admitted⟩
      · obtain ⟨inner, outcome, journey⟩ := below inside (index :: above) 0
        rcases outcome with fault | markup
        · exact ⟨_, _, .failedBelow admitted shaped journey⟩
        · rcases gave : textOf (Value.object fields).typeOf
            ((body ⟨fields, paramsOf fields, markup, context⟩).result registry.types) with
            fault | own
          · exact ⟨_, _, .failedLeaving admitted shaped journey rfl gave⟩
          · obtain ⟨later, outcome, onward⟩ := others nodes.tail above (index + 1)
            exact ⟨_, _, .left admitted shaped journey rfl gave onward⟩

variable {above : Place} {index : Nat} {forest : List Value} {calls : List Call}
  {outcome : Outcome String}

/-! ### Journeys are what comes of taking steps -/

/-- A journey is made by taking the steps of the tour, whatever stands open around it. -/
theorem Journey.travel_eq (journey : Journey registry context above index forest calls outcome) :
    ∀ progress : Progress, travel registry context (tour above index forest) progress =
      (outcome.map progress.put, calls) := by
  induction journey with
  | done =>
      intro progress
      simp [tour, travel, Except.map]
  | refused refusal =>
      intro progress
      simp [tour, travel, Step.take, refusal, Except.map]
  | failedBelow admitted shaped below induction =>
      intro progress
      obtain rfl := childItems_eq_childNodes shaped
      rw [tour, travel]
      simp only [Step.take, admitted]
      rw [travel_append_error (induction _)]
      rfl
  | failedLeaving admitted shaped below given failed induction =>
      intro progress
      obtain rfl := childItems_eq_childNodes shaped
      subst given
      rw [tour, travel]
      simp only [Step.take, admitted]
      rw [travel_append_ok (induction _), travel]
      simp only [Step.take, Progress.put_opened, String.empty_append, failed]
      rfl
  | @left above index fields rest children body inner later markup own args outcome admitted
      shaped below given gave others induction onward =>
      intro progress
      obtain rfl := childItems_eq_childNodes shaped
      subst given
      rw [tour, travel]
      simp only [Step.take, admitted]
      rw [travel_append_ok (induction _), travel]
      simp only [Step.take, Progress.put_opened, String.empty_append, gave, onward]
      cases outcome with
      | error fault => rfl
      | ok others => simp [Except.map, Progress.put_put]

/-! ### Journeys are what the renderer does -/

variable {audience : Audience}

theorem play_quiet {body : RenderBody} (quiet : body.Quiet) {session : Session}
    (alone : session.schedule = []) :
    play audience body session =
      (body.result session.hub.registry.types,
        session.noted (body.notes session.hub.registry.types)) := by
  induction quiet generalizing session with
  | give result | fail fault =>
      rw [RenderBody.notes, Session.noted_nil]
      rfl
  | note entry quiet induction =>
      rw [play_note, RenderBody.notes, Session.noted_cons]
      exact induction alone
  | types quiet induction =>
      rw [play_types]
      exact induction _ alone
  | pause quiet induction =>
      rw [play_pause_nil alone]
      exact induction alone

theorem Journey.walks (journey : Journey registry context above index forest calls outcome)
    (quiet : QuietFor registry forest) (session : Session)
    (same : session.hub.registry = registry) (alone : session.schedule = []) :
    ∃ trace, Walks audience context forest session trace outcome
      (session.noted (calls.flatMap Call.notes)) := by
  induction journey generalizing session with
  | done =>
      rw [List.flatMap_nil, Session.noted_nil]
      exact ⟨[], .done⟩
  | refused refusal =>
      rw [List.flatMap_nil, Session.noted_nil]
      subst same
      exact ⟨_, .refused rfl refusal⟩
  | failedBelow admitted shaped below induction =>
      obtain rfl := childItems_eq_childNodes shaped
      obtain ⟨trace, walks⟩ := induction quiet.below session same alone
      subst same
      exact ⟨_, .failedBelow rfl admitted shaped walks⟩
  | @failedLeaving above index fields rest children body inner markup args fault admitted shaped
      below given failed induction =>
      obtain rfl := childItems_eq_childNodes shaped
      obtain ⟨trace, walks⟩ := induction quiet.below session same alone
      have played : play audience (body args) (session.noted (inner.flatMap Call.notes)) = _ :=
        play_quiet (quiet.head admitted args) alone
      subst same given
      rw [List.flatMap_append, ← Session.noted_noted, List.flatMap_singleton]
      exact ⟨_, .failedLeaving rfl admitted shaped walks played failed⟩
  | @left above index fields rest children body inner later markup own args outcome admitted
      shaped below given gave others induction onward =>
      obtain rfl := childItems_eq_childNodes shaped
      obtain ⟨trace, walks⟩ := induction quiet.below session same alone
      have played : play audience (body args) (session.noted (inner.flatMap Call.notes)) = _ :=
        play_quiet (quiet.head admitted args) alone
      obtain ⟨farther, walksOn⟩ := onward quiet.tail ((session.noted (inner.flatMap Call.notes)).noted
        ((body args).notes registry.types)) same alone
      subst same given
      rw [List.flatMap_append, ← Session.noted_noted, List.flatMap_cons, ← Session.noted_noted]
      exact ⟨_, .left rfl admitted shaped walks played gave walksOn⟩

theorem Journey.watched (watch : RenderArgs → Value)
    (journey : Journey registry context above index forest calls outcome) :
    Journey (registry.watched watch) context above index forest
      (calls.map (Call.watched watch)) outcome := by
  have entered {type params : Value} {body : RenderArgs → RenderBody}
      (admitted : admission registry type params = .ok body) :
      admission (registry.watched watch) type params =
        .ok fun args => .note (watch args) (body args) := by
    rw [admission_watched, admitted]
    rfl
  have sameTypes := Registry.types_watched watch registry
  induction journey with
  | done => exact .done
  | refused refusal =>
      apply Journey.refused
      rw [admission_watched, refusal]
      rfl
  | failedBelow admitted shaped below induction =>
      exact .failedBelow (entered admitted) shaped induction
  | failedLeaving admitted shaped below given failed induction =>
      rw [← sameTypes] at failed
      rw [List.map_append, List.map_singleton, Call.watched, ← sameTypes]
      exact .failedLeaving (entered admitted) shaped induction given failed
  | left admitted shaped below given gave others induction onward =>
      rw [← sameTypes] at gave
      rw [List.map_append, List.map_cons, Call.watched, ← sameTypes]
      exact .left (entered admitted) shaped induction given gave onward

/-! ### Who is called on a journey -/

/-- The node that is entered stands at its place, what is below it comes next, and its
siblings come after it. -/
theorem standing_of_part {whole children : List Value} {fields : Fields} {rest : List Value}
    (part : (nodesBelow whole above).drop index = .object fields :: rest)
    (shaped : childItems fields = .ok children) :
    nodeAt? whole (index :: above) = some (.object fields) ∧
      (nodesBelow whole (index :: above)).drop 0 = children ∧
        (nodesBelow whole above).drop (index + 1) = rest := by
  have first : (nodesBelow whole above)[index]? = some (.object fields) := by
    rw [← List.head?_drop, part, List.head?_cons]
  refine ⟨first, ?_, ?_⟩
  · rw [List.drop_zero, nodesBelow, first, childItems_eq_childNodes shaped]
    rfl
  · rw [← List.tail_drop, part, List.tail_cons]

/-- Nodes above a place and at it are let in. -/
def WayIn (registry : Registry) (forest : List Value) (place : Place) : Prop :=
  ∀ upper, upper <:+ place → upper ≠ [] → LetIn registry forest upper

theorem WayIn.cons {whole : List Value} {fields : Fields}
    {body : RenderArgs → RenderBody} (way : WayIn registry whole above)
    (stands : nodeAt? whole (index :: above) = some (.object fields))
    (admitted : admission registry (Value.object fields).typeOf (paramsOf fields) = .ok body) :
    WayIn registry whole (index :: above) := by
  intro upper suffix proper
  rcases List.suffix_cons_iff.mp suffix with rfl | higher
  · exact ⟨fields, stands, admits_of_admission admitted⟩
  · exact way upper higher proper

/-- On a journey through a part of a forest those who are called are let in, and so is every
node above them. -/
theorem Journey.wayIn {whole : List Value}
    (journey : Journey registry context above index forest calls outcome)
    (part : (nodesBelow whole above).drop index = forest) (way : WayIn registry whole above) :
    ∀ call ∈ calls, nodeAt? whole call.place = some (.object call.args.node) ∧
      WayIn registry whole call.place := by
  induction journey with
  | done | refused refusal => simp
  | failedBelow admitted shaped below induction =>
      obtain ⟨stands, inside, -⟩ := standing_of_part part shaped
      exact induction inside (way.cons stands admitted)
  | failedLeaving admitted shaped below given failed induction =>
      obtain ⟨stands, inside, -⟩ := standing_of_part part shaped
      have here := way.cons stands admitted
      subst given
      intro call member
      rcases List.mem_append.mp member with deeper | own
      · exact induction inside here call deeper
      · obtain rfl := List.mem_singleton.mp own
        exact ⟨stands, here⟩
  | left admitted shaped below given gave others induction onward =>
      obtain ⟨stands, inside, after⟩ := standing_of_part part shaped
      have here := way.cons stands admitted
      subst given
      intro call member
      rcases List.mem_append.mp member with deeper | own
      · exact induction inside here call deeper
      · rcases List.mem_cons.mp own with rfl | later
        · exact ⟨stands, here⟩
        · exact onward after way call later

/-! ### The renderer goes around -/

/-- A tree that has been accepted is a forest of one node. -/
theorem forest_of_valid {reading : Node.Reading} {tree : Value} {node : Node}
    (valid : Node.validateBy reading tree = .ok node) :
    NodesOnly [tree] ∧ forestOf tree = [tree] := by
  have grammar := Node.validateBy_ok_iff.mp ⟨node, valid⟩
  refine ⟨by simpa [NodesOnly] using ⟨reading, grammar⟩, ?_⟩
  cases grammar with
  | @node reading inside fields params type room hasType =>
      cases fields with
      | nil => simp [Fields.get?] at hasType
      | cons entry rest => simp [forestOf, Value.truthy]

theorem Journey.travelAround_eq (journey : Journey registry context [] 0 forest calls outcome) :
    travelAround registry context forest = (outcome, calls) := by
  rw [travelAround, journey.travel_eq]
  cases outcome with
  | error fault => rfl
  | ok markup => simp [Except.map, Progress.start, Progress.put]

theorem Journey.render_eq {tree : Value}
    (journey : Journey registry context [] 0 (forestOf tree) calls outcome)
    (quiet : QuietFor registry (forestOf tree)) (journal : List Value) :
    Hub.render audience tree context ⟨registry, journal⟩ =
      (outcome, ⟨registry, journal ++ calls.flatMap Call.notes⟩) := by
  let start : Session := ⟨⟨registry, journal⟩, []⟩
  obtain ⟨trace, walks⟩ : ∃ trace, Walks audience context (forestOf tree) start trace outcome
      (start.noted (calls.flatMap Call.notes)) := journey.walks quiet start rfl rfl
  have answered : Program.answer (render audience tree context) start =
      (outcome, start.noted (calls.flatMap Call.notes)) := by
    rw [answer_render, walks.answer_eq]
  calc Hub.render audience tree context ⟨registry, journal⟩
      = ((Program.answer (render audience tree context) start).1,
          (Program.answer (render audience tree context) start).2.hub) := rfl
    _ = (outcome, ⟨registry, journal ++ calls.flatMap Call.notes⟩) := by
        rw [answered]
        rfl

end

/-- Calls on a way around a forest: at most one for each node and in post-order, each for a
node that is let in like all nodes above it, for all nodes on a way that comes to its end, and
none behind the first step that fails. -/
structure Orderly (registry : Registry) (context : RenderContext) (forest : List Value)
    (outcome : Outcome String) (calls : List Call) : Prop where
  inOrder : calls.map Call.place <+: postorder forest
  once : (calls.map Call.place).Nodup
  entitled : ∀ call ∈ calls, nodeAt? forest call.place = some (.object call.args.node) ∧
    WayIn registry forest call.place
  complete : ∀ markup, outcome = .ok markup → calls.map Call.place = postorder forest
  stopped : ∀ fault, outcome = .error fault → ∃ before step after reached done last,
    tour [] 0 forest = before ++ step :: after ∧
      travel registry context before .start = (.ok reached, done) ∧
      done.map Call.place = left before ∧
      step.take registry context reached = (.error fault, last) ∧ calls = done ++ last

theorem orderly_travelAround {registry : Registry} {context : RenderContext}
    {forest : List Value} (nodes : NodesOnly forest) :
    Orderly registry context forest (travelAround registry context forest).1
      (travelAround registry context forest).2 := by
  obtain ⟨calls, outcome, journey⟩ :
      ∃ calls outcome, Journey registry context [] 0 forest calls outcome :=
    exists_journey nodes [] 0
  have traveled := journey.travel_eq .start
  have inOrder := travel_places traveled
  rw [journey.travelAround_eq]
  refine ⟨inOrder, inOrder.sublist.nodup (nodup_postorder forest), ?_, ?_, ?_⟩
  · refine journey.wayIn rfl fun upper suffix proper => absurd ?_ proper
    exact List.suffix_nil.mp suffix
  · rintro markup rfl
    exact travel_ok_places traveled
  · rintro fault rfl
    obtain ⟨before, step, after, reached, done, last, split, passed, taken, rfl⟩ :=
      exists_failing_step traveled
    exact ⟨before, step, after, reached, done, last, split, passed, travel_ok_places passed,
      taken, rfl⟩

/-- The renderer goes around the tree step by step.  It comes to the same text or fault, and
its plugins are called in the same order with the same arguments, whatever they are watched
for.  Nothing is supposed of the validators, which may be a library's and may fail. -/
theorem render_eq_travelAround (audience : Audience) {reading : Node.Reading} {tree : Value}
    {node : Node} (valid : Node.validateBy reading tree = .ok node) {registry : Registry}
    (quiet : registry.Quiet) (context : RenderContext) (journal : List Value) :
    let outcome := (travelAround registry context [tree]).1
    let calls := (travelAround registry context [tree]).2
    Hub.render audience tree context ⟨registry, journal⟩ =
        (outcome, ⟨registry, journal ++ calls.flatMap Call.notes⟩) ∧
      (∀ watch : RenderArgs → Value,
        Hub.render audience tree context ⟨registry.watched watch, journal⟩ =
          (outcome, ⟨registry.watched watch,
            journal ++ calls.flatMap fun call => watch call.args :: call.notes⟩)) ∧
      Orderly registry context [tree] outcome calls := by
  obtain ⟨nodes, whole⟩ := forest_of_valid valid
  obtain ⟨calls, outcome, journey⟩ :
      ∃ calls outcome, Journey registry context [] 0 [tree] calls outcome :=
    exists_journey nodes [] 0
  have orderly : Orderly registry context [tree] _ _ := orderly_travelAround nodes
  rw [journey.travelAround_eq] at orderly ⊢
  rw [← whole] at journey
  refine ⟨journey.render_eq (quietFor_of_quiet quiet _) journal, ?_, orderly⟩
  intro watch
  dsimp only
  rw [(journey.watched watch).render_eq (quietFor_of_quiet (quiet.watched watch) _) journal,
    List.flatMap_map]
  rfl

/-- A schema with a keyword that a library has to know. -/
def labelSchema : Value :=
  .object [("properties", .object [("tag", .object [("pattern", .str "^[a-z]+$")])])]

/-- What the library finds wrong with the params of a label. -/
def labelCheck : Check
  | .object fields =>
      match Fields.get? fields "tag" with
      | some (.str tag) =>
          if !tag.isEmpty && tag.toList.all fun char => 'a' ≤ char && char ≤ 'z' then .ok []
          else .ok [⟨["tag"], "'" ++ tag ++ "' does not match '^[a-z]+$'", some "pattern"⟩]
      | _ => .ok []
  | _ => .ok []

def labelLibrary : Schema.Library := fun form =>
  .ok (if form = labelSchema then some labelCheck else none)

/-- A plugin that frames its children and writes them down. -/
def frame : Registration :=
  ⟨"Frame", ⟨.str "Frame", .null, none,
      some fun args => .note (.str args.children) (.give (.text ("<" ++ args.children ++ ">")))⟩,
    ⟨"Frame", "general", .null, .null, .null, [], []⟩⟩

/-- A plugin that renders nothing but a mark, for params of its schema. -/
def label : Registration :=
  ⟨"Label", ⟨.str "Label", labelSchema, none, some fun _ => .give (.text "#")⟩,
    ⟨"Label", "general", .null, .null, .null, [], []⟩⟩

def framing : Registry where
  library := labelLibrary
  registrations := [frame, label]
  validators := [("Label", .foreign labelCheck)]
  allowlist := none
  subscriptions := []

/-- Frames around a frame and a label whose params are not valid. -/
def framedTree : Value :=
  .object [("type", .str "Frame"), ("params", .object []),
    ("children", .list [
      .object [("type", .str "Frame"), ("params", .object [])],
      .object [("type", .str "Label"), ("params", .object [("tag", .str "B1")])]])]

theorem framing_quiet : framing.Quiet := by
  intro registration member body hasBody args
  simp only [framing, List.mem_cons, List.not_mem_nil, or_false] at member
  rcases member with rfl | rfl
  · obtain rfl := Option.some.inj hasBody
    exact .note _ (.give _)
  · obtain rfl := Option.some.inj hasBody
    exact .give _

def labelRefusal : Fault :=
  Registry.refused "Invalid params for plugin Label" .pluginInvalidParams (.list [
    Finding.toValue ⟨["tag"], "'B1' does not match '^[a-z]+$'", some "pattern"⟩])

theorem admission_label :
    admission framing (.str "Label") (.object [("tag", .str "B1")]) = .error labelRefusal := by
  have found : labelCheck (.object [("tag", .str "B1")]) =
      .ok [⟨["tag"], "'B1' does not match '^[a-z]+$'", some "pattern"⟩] := rfl
  have reported : (Validator.foreign labelCheck).report (.object [("tag", .str "B1")]) =
      .ok [⟨["tag"], "'B1' does not match '^[a-z]+$'", some "pattern"⟩] := by
    rw [Validator.report, found]
    simp [Schema.inOrder, bind, Except.bind, pure, Except.pure]
  have checked : framing.validateParams (.str "Label") (.object [("tag", .str "B1")]) =
      .error labelRefusal := by
    have known : framing.validator? "Label" = some (.foreign labelCheck) := rfl
    simp only [Registry.validateParams, known, reported]
    rfl
  have allowed : framing.isAllowed (.str "Label") = .ok true := rfl
  have present : framing.lookup (.str "Label") = .ok (some label) := rfl
  simp [admission, allowed, present, checked, label, bind, Except.bind]

/-- The first frame is rendered, and then the way ends: the frame around it is not. -/
theorem render_eq_travelAround_framedTree :
    (∃ node, Node.validate framedTree = .ok node) ∧ framing.Quiet ∧
      Registry.compile framing.library "Label" labelSchema = .ok (some (.foreign labelCheck)) ∧
      Hub.render .silent framedTree (.data .null) ⟨framing, []⟩ =
        (.error labelRefusal, ⟨framing, [.str ""]⟩) ∧
      Orderly framing (.data .null) [framedTree] (.error labelRefusal)
        [⟨[0, 0], ⟨[("type", .str "Frame"), ("params", .object [])], .object [], "", .data .null⟩,
          [.str ""]⟩] := by
  have valid : Node.validate framedTree = .ok _ := rfl
  have compiled : Registry.compile framing.library "Label" labelSchema =
      .ok (some (.foreign labelCheck)) := rfl
  have frames : admission framing (.str "Frame") (.object []) =
      .ok fun args => .note (.str args.children) (.give (.text ("<" ++ args.children ++ ">"))) :=
    rfl
  have journey : Journey framing (.data .null) [] 0 [framedTree] _ _ :=
    .failedBelow frames rfl (.left frames rfl .done rfl rfl (.refused admission_label))
  obtain ⟨rendered, -, orderly⟩ :=
    render_eq_travelAround .silent valid framing_quiet (.data .null) []
  rw [journey.travelAround_eq] at rendered orderly
  exact ⟨⟨_, valid⟩, framing_quiet, compiled, rendered, orderly⟩

end Renderer

end PageComposer
