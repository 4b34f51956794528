import PageComposer.Proofs.Builtin.Forests
import PageComposer.Proofs.Range
import PageComposer.Proofs.Renderer.Linear

/-!
# What becomes of nodes of built-in types

A node of a built-in type is refused when it is entered, if its params break the contract of its
type.  When it is left, only one thing can still go wrong: an image may be given a whole number
as a length that is too large for a double.  `obstacle` names the fault of either, and a forest
comes to the fault of the first obstacle on the way around it, or to a text if there is none.
-/

namespace PageComposer.Builtin

open Renderer (Step Place Call Journey admission paramsOf tour)

variable {args : RenderArgs} {params : Fields}

/-! ### What the bodies come to -/

theorem Container.render_ok (contract : Container.Contract params)
    (given : args.params = .object params) : ∃ own, Container.render args = .ok own := by
  have tag := tagOf_ok given contract.tag (by decide) "div"
  simp only [Container.render, tag, param_ok given, bind, Except.bind, pure, Except.pure]
  exact ⟨_, rfl⟩

theorem TextBlock.render_ok (contract : TextBlock.Contract params)
    (given : args.params = .object params) : ∃ own, TextBlock.render args = .ok own := by
  have tag := tagOf_ok given contract.tag (by decide) "p"
  obtain ⟨text, found⟩ := contract.text
  simp only [TextBlock.render, tag, param_ok given, requiredParam_ok given found, bind,
    Except.bind, pure, Except.pure]
  exact ⟨_, rfl⟩

theorem List.elements_ok {className key : Value} {items : List Value}
    (texts : ∀ item, ∃ own, ListItem.text key item = .ok own) :
    ∃ body, List.elements className key items = .ok body := by
  induction items with
  | nil => exact ⟨"", rfl⟩
  | cons item rest induction =>
      obtain ⟨own, shown⟩ := texts item
      obtain ⟨others, onward⟩ := induction
      simp only [List.elements, shown, onward, bind, Except.bind, pure, Except.pure]
      exact ⟨_, rfl⟩

theorem List.render_ok (contract : List.Contract params)
    (given : args.params = .object params) : ∃ own, List.render args = .ok own := by
  obtain ⟨items, found⟩ := contract.items
  have members : ((Fields.getD params "items").orElse (.list [])).members = .ok items := by
    cases items <;> simp [Fields.getD, found, Value.orElse, Value.truthy, Value.members]
  obtain ⟨body, shown⟩ : ∃ body, List.elements (Fields.getD params "itemClass")
      (Fields.getD params "itemKey") items = .ok body :=
    List.elements_ok fun item => ⟨_, List.text_ok contract item⟩
  simp only [List.render, param_ok given, members, shown, bind, Except.bind, pure, Except.pure]
  exact ⟨_, rfl⟩

/-! ### Lengths -/

theorem getD_eq_int_iff {name : String} {whole : Int} :
    Fields.getD params name = .int whole ↔ Fields.get? params name = some (.int whole) := by
  cases found : Fields.get? params name <;> simp [Fields.getD, found]

theorem Image.lengthBy_cases (ofInt? : Int → Option Binary64) (toInt? : Binary64 → Option Int)
    (value : Value) :
    (∃ length, Image.lengthBy ofInt? toInt? value = .ok length) ∧
        (∀ whole, value = .int whole → (ofInt? whole).isSome = true) ∨
      Image.lengthBy ofInt? toInt? value = .error (.misuse .tooLarge) ∧
        ∃ whole, value = .int whole ∧ ¬ (ofInt? whole).isSome = true := by
  cases value with
  | int whole => cases inRange : ofInt? whole <;> simp [lengthBy, inRange]
  | float value =>
      left
      cases whole : toInt? value <;> simp [lengthBy, whole]
  | _ => simp [lengthBy]

theorem Image.optionalLength_eq (given : args.params = .object params) (name : String) :
    Image.optionalLength args name = (Image.length? (Fields.getD params name)).map
      fun length => (length.map (Markup.attributeText name)).toList := by
  rw [Image.optionalLength, param_ok given]
  simp only [bind, Except.bind, pure, Except.pure]
  generalize Image.length? (Fields.getD params name) = length
  cases length <;> rfl

/-- A whole number is in the range of doubles where it is given. -/
def InRangeIfGiven (params : Fields) (name : String) : Prop :=
  ∀ whole, Fields.get? params name = some (.int whole) → whole.natAbs < Binary64.ceiling

/-- The whole number under a name, if one is given. -/
def wholeIn? (params : Fields) (name : String) : Option Int :=
  match Fields.get? params name with
  | some (.int whole) => some whole
  | _ => none

theorem wholeIn?_eq_some_iff {name : String} {whole : Int} :
    wholeIn? params name = some whole ↔ Fields.get? params name = some (.int whole) := by
  unfold wholeIn?
  split <;> simp_all

instance (params : Fields) (name : String) : Decidable (InRangeIfGiven params name) :=
  decidable_of_iff (∀ whole ∈ wholeIn? params name, whole.natAbs < Binary64.ceiling) (by
    simp [InRangeIfGiven, wholeIn?_eq_some_iff])

/-- A length is shown, or it is a whole number that is too large for a double. -/
theorem Image.optionalLength_cases (given : args.params = .object params) (name : String) :
    (∃ written, Image.optionalLength args name = .ok written) ∧ InRangeIfGiven params name ∨
      Image.optionalLength args name = .error (.misuse .tooLarge) ∧
        ¬ InRangeIfGiven params name := by
  rw [Image.optionalLength_eq given, Image.length?_eq]
  rcases Image.lengthBy_cases Binary64.ofInt? Binary64.toInt? (Fields.getD params name) with
    ⟨⟨length, shown⟩, fits⟩ | ⟨refused, whole, same, large⟩
  · left
    refine ⟨⟨_, by rw [shown]; rfl⟩, fun whole found => ?_⟩
    exact Binary64.isSome_ofInt?_iff.mp (fits whole (getD_eq_int_iff.mpr found))
  · right
    refine ⟨by rw [refused]; rfl, fun inRange => large ?_⟩
    exact Binary64.isSome_ofInt?_iff.mpr (inRange whole (getD_eq_int_iff.mp same))

/-- An image can be shown with the lengths it is given. -/
def Measurable (params : Fields) : Prop :=
  InRangeIfGiven params "width" ∧ InRangeIfGiven params "height"

instance : DecidablePred Measurable := fun params =>
  inferInstanceAs (Decidable (InRangeIfGiven params "width" ∧ InRangeIfGiven params "height"))

theorem Image.render_cases (contract : Image.Contract params)
    (given : args.params = .object params) :
    (∃ own, Image.render args = .ok own) ∧ Measurable params ∨
      Image.render args = .error (.misuse .tooLarge) ∧ ¬ Measurable params := by
  obtain ⟨src, found, -⟩ := contract.src
  simp only [Image.render, requiredParam_ok given found, Image.optionalText_ok given, bind,
    Except.bind, pure, Except.pure]
  rcases Image.optionalLength_cases given "width" with ⟨⟨width, shown⟩, fits⟩ | ⟨refused, large⟩
  · rcases Image.optionalLength_cases given "height" with
      ⟨⟨height, alsoShown⟩, alsoFits⟩ | ⟨refused, large⟩
    · rw [shown, alsoShown]
      exact .inl ⟨⟨_, rfl⟩, fits, alsoFits⟩
    · rw [shown, refused]
      exact .inr ⟨rfl, fun both => large both.2⟩
  · rw [refused]
    exact .inr ⟨rfl, fun both => large both.1⟩

/-- A built-in plugin with params that its schema finds nothing wrong with gives a text, or it
is an image that cannot be measured. -/
theorem render_cases {id : String} {schema : Schema} {render : RenderArgs → Outcome String}
    (named : ofId? id = some (schema, render)) (given : args.params = .object params)
    (valid : schema.report args.params = []) :
    (∃ own, render args = .ok own) ∧ (id = "Image" → Measurable params) ∨
      render args = .error (.misuse .tooLarge) ∧ ¬ (id = "Image" → Measurable params) := by
  unfold ofId? at named
  split at named
  · obtain ⟨rfl, rfl⟩ := by simpa using named
    obtain ⟨own, same, contract⟩ := Container.report_eq_nil_iff.mp valid
    exact .inl ⟨Container.render_ok contract same, by simp⟩
  · obtain ⟨rfl, rfl⟩ := by simpa using named
    obtain ⟨own, same, contract⟩ := TextBlock.report_eq_nil_iff.mp valid
    exact .inl ⟨TextBlock.render_ok contract same, by simp⟩
  · obtain ⟨rfl, rfl⟩ := by simpa using named
    obtain ⟨own, same, contract⟩ := Image.report_eq_nil_iff.mp valid
    obtain rfl : params = own := by simpa [given] using same
    rcases Image.render_cases contract given with ⟨shown, fits⟩ | ⟨refused, large⟩
    · exact .inl ⟨shown, fun _ => fits⟩
    · exact .inr ⟨refused, fun fits => large (fits rfl)⟩
  · obtain ⟨rfl, rfl⟩ := by simpa using named
    obtain ⟨own, same, contract⟩ := List.report_eq_nil_iff.mp valid
    exact .inl ⟨List.render_ok contract same, by simp⟩
  · simp at named

/-! ### Obstacles -/

/-- The params of a node keep the contract of its type. -/
def Fulfils (node : Value) : Prop :=
  match node.typeOf with
  | .str "Container" => Container.Contract (entriesOf node)
  | .str "TextBlock" => TextBlock.Contract (entriesOf node)
  | .str "Image" => Image.Contract (entriesOf node)
  | .str "List" => List.Contract (entriesOf node)
  | _ => False

/-- A node is no image that cannot be measured. -/
def Showable (node : Value) : Prop := node.typeOf = .str "Image" → Measurable (entriesOf node)

instance : DecidablePred Showable := fun node =>
  inferInstanceAs (Decidable (node.typeOf = .str "Image" → Measurable (entriesOf node)))

/-- The refusal of params in which something was found to be wrong. -/
def refusalOf (type : String) (findings : List Finding) : Fault :=
  Registry.refused ("Invalid params for plugin " ++ type) .pluginInvalidParams
    (.list (findings.map Finding.toValue))

/-- What is wrong with the params of a node of a built-in type. -/
def findingsOf (type : String) (node : Value) : List Finding :=
  match ofId? type with
  | some (schema, _) => schema.report (.object (entriesOf node))
  | none => []

theorem fulfils_iff {node : Value} {type : String} (typed : node.typeOf = .str type)
    (builtin : ofId? type ≠ none) : Fulfils node ↔ findingsOf type node = [] := by
  unfold ofId? at builtin
  split at builtin
  · simp [Fulfils, typed, findingsOf, ofId?, Container.report_eq_nil_iff]
  · simp [Fulfils, typed, findingsOf, ofId?, TextBlock.report_eq_nil_iff]
  · simp [Fulfils, typed, findingsOf, ofId?, Image.report_eq_nil_iff]
  · simp [Fulfils, typed, findingsOf, ofId?, List.report_eq_nil_iff]
  · simp at builtin

/-- What keeps a step from being taken. -/
def obstacle : Step → Option Fault
  | .enter _ node =>
      match node.typeOf with
      | .str type =>
          if (findingsOf type node).isEmpty then none
          else some (refusalOf type (findingsOf type node))
      | _ => none
  | .leave _ node => if Showable node then none else some (.misuse .tooLarge)

/-! ### Registries with all built-in plugins -/

/-- All built-in plugins are registered, with their schemas. -/
def Complete (registry : Registry) : Prop :=
  ∀ id schema render, ofId? id = some (schema, render) →
    ∃ registration, registry.find? id = some registration ∧
      registration.plugin.body = (some fun args => .ofOutcome (render args)) ∧
      registry.validator? id = some (.known schema)

theorem complete_addTo_empty {registry : Registry} (added : addTo .empty = .ok registry) :
    Complete registry ∧ registry.allowlist = none := by
  have types : (addTo .empty).map Registry.types =
      .ok ["Container", "TextBlock", "Image", "List"] := rfl
  have allowlist : (addTo .empty).map Registry.allowlist = .ok none := rfl
  rw [added] at types allowlist
  refine ⟨fun id schema render named => ?_, Except.ok.inj allowlist⟩
  rcases inPlace_addTo_empty added id schema render named with ⟨absent, -⟩ | present
  · have among : id ∈ registry.types := by
      rw [Except.ok.inj types]
      unfold ofId? at named
      split at named <;> simp at named ⊢
    obtain ⟨registration, member, same⟩ := List.mem_map.mp among
    have other := List.find?_eq_none.mp absent registration member
    simp [same] at other
  · exact present

section

variable {registry : Registry} {type : String} {schema : Schema}
  {render : RenderArgs → Outcome String}

theorem Complete.admission_eq (complete : Complete registry) (unlimited : registry.allowlist = none)
    (named : ofId? type = some (schema, render)) (params : Value) :
    admission registry (.str type) params =
      match schema.report params with
      | [] => .ok fun args => .ofOutcome (render args)
      | findings => .error (refusalOf type findings) := by
  obtain ⟨registration, found, hasBody, validator⟩ := complete type schema render named
  have allowed : registry.isAllowed (.str type) = .ok true := by
    simp [Registry.isAllowed, unlimited]
  simp only [admission, allowed, Registry.lookup, found,
    Registry.validateParams_of_known validator, bind, Except.bind, pure, Except.pure,
    Bool.not_true, Bool.false_eq_true, if_false, Option.bind_some, hasBody]
  cases schema.report params <;> rfl

/-- What is wrong with an outcome, if anything is. -/
def faultOf : Outcome String → Option Fault
  | .ok _ => none
  | .error fault => some fault

variable {node : Value}

theorem Complete.enter_cases (complete : Complete registry)
    (unlimited : registry.allowlist = none) (typed : node.typeOf = .str type)
    (named : ofId? type = some (schema, render)) (place : Place) :
    schema.report (.object (entriesOf node)) = [] ∧ obstacle (.enter place node) = none ∧
        admission registry node.typeOf (.object (entriesOf node)) =
          .ok (fun args => .ofOutcome (render args)) ∨
      ∃ fault, obstacle (.enter place node) = some fault ∧
        admission registry node.typeOf (.object (entriesOf node)) = .error fault := by
  have findings : findingsOf type node = schema.report (.object (entriesOf node)) := by
    simp only [findingsOf, named]
  simp only [obstacle, typed, findings, complete.admission_eq unlimited named]
  cases schema.report (.object (entriesOf node)) with
  | nil => exact .inl ⟨rfl, rfl, rfl⟩
  | cons finding others => exact .inr ⟨_, rfl, rfl⟩

theorem faultOf_render (typed : node.typeOf = .str type)
    (named : ofId? type = some (schema, render)) (given : args.params = .object (entriesOf node))
    (valid : schema.report (.object (entriesOf node)) = []) (place : Place) :
    faultOf (render args) = obstacle (.leave place node) := by
  have shape : Showable node ↔ (type = "Image" → Measurable (entriesOf node)) := by
    simp [Showable, typed]
  simp only [obstacle, shape]
  rcases render_cases named given (given ▸ valid) with ⟨⟨own, shown⟩, fits⟩ | ⟨refused, large⟩
  · rw [shown, if_pos fits]
    rfl
  · rw [refused, if_neg large]
    rfl

theorem textOf_ofOutcome (type : Value) (ids : List String) (answer : Outcome String) :
    Renderer.textOf type ((RenderBody.ofOutcome answer).result ids) = answer := by
  cases answer <;> rfl

theorem paramsOf_eq {fields : Fields} {reading : Node.Reading}
    (grammar : Node.Grammar reading (.object fields)) :
    paramsOf fields = .object (entriesOf (.object fields)) := by
  cases grammar with
  | @node reading inside fields params type room hasType proper readable keyText hasParams =>
      cases params <;>
        simp [paramsOf, entriesOf, Fields.getD, hasParams, Value.orElse, Value.truthy]

variable {context : RenderContext} {above : Place} {index : Nat} {forest : List Value}
  {calls : List Call} {outcome : Outcome String}

/-- A built-in node that is entered has no obstacle there, and what its plugin comes to is the
obstacle that it has when it is left. -/
theorem Complete.entered (complete : Complete registry) (unlimited : registry.allowlist = none)
    {fields : Fields} {rest : List Value} {body : RenderArgs → RenderBody}
    (nodes : Renderer.NodesOnly (.object fields :: rest)) (all : AllBuiltin (.object fields :: rest))
    (admitted : admission registry (Value.object fields).typeOf (paramsOf fields) = .ok body)
    (place : Place) :
    obstacle (.enter place (.object fields)) = none ∧
      ∀ args : RenderArgs, args.params = paramsOf fields →
        faultOf (Renderer.textOf (Value.object fields).typeOf ((body args).result registry.types)) =
          obstacle (.leave place (.object fields)) := by
  obtain ⟨type, schema, render, typed, named⟩ := all.head
  obtain ⟨reading, grammar⟩ := nodes (.object fields) (by simp)
  rw [paramsOf_eq grammar] at admitted ⊢
  rcases complete.enter_cases unlimited typed named place with ⟨valid, free, entered⟩ |
    ⟨fault, -, refused⟩
  · obtain rfl : (fun args => RenderBody.ofOutcome (render args)) = body := by
      simpa [admitted] using entered.symm
    refine ⟨free, fun args given => ?_⟩
    rw [textOf_ofOutcome]
    exact faultOf_render typed named given valid place
  · simp [admitted] at refused

theorem Complete.refused (complete : Complete registry) (unlimited : registry.allowlist = none)
    {fields : Fields} {rest : List Value} {fault : Fault}
    (nodes : Renderer.NodesOnly (.object fields :: rest)) (all : AllBuiltin (.object fields :: rest))
    (refusal : admission registry (Value.object fields).typeOf (paramsOf fields) = .error fault)
    (place : Place) : obstacle (.enter place (.object fields)) = some fault := by
  obtain ⟨type, schema, render, typed, named⟩ := all.head
  obtain ⟨reading, grammar⟩ := nodes (.object fields) (by simp)
  rw [paramsOf_eq grammar] at refusal
  rcases complete.enter_cases unlimited typed named place with ⟨-, -, entered⟩ |
    ⟨other, obstructed, refused⟩
  · simp [refusal] at entered
  · obtain rfl : fault = other := by simpa [refusal] using refused
    exact obstructed

/-- A forest of built-in nodes comes to the fault of the first obstacle on the way around it. -/
theorem faultOf_journey (complete : Complete registry) (unlimited : registry.allowlist = none)
    (journey : Journey registry context above index forest calls outcome)
    (nodes : Renderer.NodesOnly forest) (all : AllBuiltin forest) :
    faultOf outcome = (tour above index forest).findSome? obstacle := by
  induction journey with
  | done => simp [tour, faultOf]
  | refused refusal =>
      rw [tour, List.findSome?_cons, complete.refused unlimited nodes all refusal]
      rfl
  | @failedBelow above index fields rest children body inner fault admitted shaped below
      induction =>
      obtain rfl := Renderer.childItems_eq_childNodes shaped
      obtain ⟨free, -⟩ := complete.entered unlimited nodes all admitted (index :: above)
      obtain ⟨-, -, -, inside⟩ := nodes.head
      rw [tour, List.findSome?_cons, free, List.findSome?_append,
        ← induction inside all.inside]
      rfl
  | @failedLeaving above index fields rest children body inner markup args fault admitted shaped
      below given failed induction =>
      obtain rfl := Renderer.childItems_eq_childNodes shaped
      obtain ⟨free, leaving⟩ := complete.entered unlimited nodes all admitted (index :: above)
      obtain ⟨-, -, -, inside⟩ := nodes.head
      have stuck := leaving args (by rw [given])
      rw [tour, List.findSome?_cons, free, List.findSome?_append, ← induction inside all.inside,
        List.findSome?_cons, ← stuck, failed]
      rfl
  | @left above index fields rest children body inner later markup own args outcome admitted
      shaped below given gave others induction onward =>
      obtain rfl := Renderer.childItems_eq_childNodes shaped
      obtain ⟨free, leaving⟩ := complete.entered unlimited nodes all admitted (index :: above)
      obtain ⟨-, -, -, inside⟩ := nodes.head
      have passed := leaving args (by rw [given])
      have rest := onward nodes.tail fun root member => all root (by simp [member])
      rw [tour, List.findSome?_cons, free, List.findSome?_append, ← induction inside all.inside,
        List.findSome?_cons, ← passed, gave, ← rest]
      cases outcome <;> rfl

end

/-! ### The verdict on a tree -/

theorem obstacle_enter_eq_none_iff {node : Value} {type : String}
    (typed : node.typeOf = .str type) (builtin : ofId? type ≠ none) (place : Place) :
    obstacle (.enter place node) = none ↔ Fulfils node := by
  rw [fulfils_iff typed builtin]
  simp [obstacle, typed]

theorem obstacle_leave_eq_none_iff (place : Place) (node : Value) :
    obstacle (.leave place node) = none ↔ Showable node := by
  simp [obstacle]

theorem obstacle_cases {step : Step} {type : String} {fault : Fault}
    (typed : step.node.typeOf = .str type) (builtin : ofId? type ≠ none)
    (stuck : obstacle step = some fault) :
    ¬ Fulfils step.node ∧ fault = refusalOf type (findingsOf type step.node) ∨
      fault = .misuse .tooLarge ∧ ¬ Showable step.node := by
  cases step with
  | enter place node =>
      left
      change node.typeOf = .str type at typed
      simp only [obstacle, typed] at stuck
      split at stuck
      · simp at stuck
      · rename_i found
        refine ⟨?_, (Option.some.inj stuck).symm⟩
        intro fulfilled
        exact found (List.isEmpty_iff.mpr ((fulfils_iff typed builtin).mp fulfilled))
  | leave place node =>
      right
      simp only [obstacle] at stuck
      split at stuck
      · simp at stuck
      · rename_i hidden
        exact ⟨(Option.some.inj stuck).symm, hidden⟩

theorem quietFor_builtin {registry : Registry} {forest : List Value} (complete : Complete registry)
    (all : AllBuiltin forest) : Renderer.QuietFor registry forest := by
  have inPlace : InPlace registry := fun id schema render named =>
    .inr (complete id schema render named)
  intro root among node inside params body admitted args
  obtain ⟨type, typed, builtin⟩ := all root among node inside
  obtain ⟨⟨schema, render⟩, named⟩ := Option.ne_none_iff_exists'.mp builtin
  rw [typed] at admitted
  obtain ⟨rfl, -⟩ := inPlace.admission_ok named admitted
  cases computed : render args with
  | error fault =>
      simp only [computed]
      exact .fail fault
  | ok text =>
      simp only [computed]
      exact .give (.text text)

theorem faultOf_hubRender (audience : Audience) {reading : Node.Reading} {tree : Value}
    {node : Node} (valid : Node.validateBy reading tree = .ok node) (all : AllBuiltin [tree])
    {registry : Registry} (complete : Complete registry) (unlimited : registry.allowlist = none)
    (context : RenderContext) (journal : List Value) :
    faultOf (Hub.render audience tree context ⟨registry, journal⟩).1 =
      (tour [] 0 [tree]).findSome? obstacle := by
  obtain ⟨nodes, whole⟩ := Renderer.forest_of_valid valid
  obtain ⟨calls, outcome, journey⟩ :
      ∃ calls outcome, Journey registry context [] 0 [tree] calls outcome :=
    Renderer.exists_journey nodes [] 0
  have first := faultOf_journey complete unlimited journey nodes all
  rw [← whole] at journey all
  rw [journey.render_eq (quietFor_builtin complete all) journal]
  exact first

theorem faultOf_eq_none_iff {outcome : Outcome String} :
    faultOf outcome = none ↔ ∃ text, outcome = .ok text := by
  cases outcome <;> simp [faultOf]

theorem faultOf_eq_some_iff {outcome : Outcome String} {fault : Fault} :
    faultOf outcome = some fault ↔ outcome = .error fault := by
  cases outcome <;> simp [faultOf]

/-- A tree of built-in nodes comes to a text just when all its nodes keep their contracts and no
image is given a length that is too large for a double.  Otherwise it comes to the fault of the
first node on the way that breaks its contract or cannot be measured. -/
theorem render_verdict (audience : Audience) {reading : Node.Reading} {tree : Value} {node : Node}
    (valid : Node.validateBy reading tree = .ok node) (all : AllBuiltin [tree])
    {registry : Registry} (complete : Complete registry) (unlimited : registry.allowlist = none)
    (context : RenderContext) (journal : List Value) :
    let outcome := (Hub.render audience tree context ⟨registry, journal⟩).1
    faultOf outcome = (tour [] 0 [tree]).findSome? obstacle ∧
      ((∃ text, outcome = .ok text) ↔ ∀ node ∈ tree.nodes, Fulfils node ∧ Showable node) ∧
      ∀ fault, outcome = .error fault →
        (∃ node ∈ tree.nodes, ∃ type, node.typeOf = .str type ∧ ¬ Fulfils node ∧
            fault = refusalOf type (findingsOf type node)) ∨
          fault = .misuse .tooLarge ∧ ∃ node ∈ tree.nodes, ¬ Showable node := by
  have first := faultOf_hubRender audience valid all complete unlimited context journal
  have builtin : ∀ node ∈ tree.nodes, ∃ type, node.typeOf = .str type ∧ ofId? type ≠ none :=
    all tree (by simp)
  refine ⟨first, ?_, ?_⟩
  · rw [← faultOf_eq_none_iff, first, List.findSome?_eq_none_iff]
    constructor
    · intro free node inside
      obtain ⟨type, typed, known⟩ := builtin node inside
      obtain ⟨place, entered, left⟩ :=
        Renderer.mem_tour_of_mem_nodes [] 0 (List.mem_singleton.mpr rfl) inside
      exact ⟨(obstacle_enter_eq_none_iff typed known place).mp (free _ entered),
        (obstacle_leave_eq_none_iff place node).mp (free _ left)⟩
    · intro sound step member
      obtain ⟨root, among, inside⟩ := Renderer.node_of_mem_tour member
      obtain rfl := List.mem_singleton.mp among
      obtain ⟨fulfilled, shown⟩ := sound step.node inside
      obtain ⟨type, typed, known⟩ := builtin step.node inside
      cases step with
      | enter place node => exact (obstacle_enter_eq_none_iff typed known place).mpr fulfilled
      | leave place node => exact (obstacle_leave_eq_none_iff place node).mpr shown
  · intro fault failed
    rw [faultOf_eq_some_iff.mpr failed] at first
    obtain ⟨step, member, stuck⟩ := List.exists_of_findSome?_eq_some first.symm
    obtain ⟨root, among, inside⟩ := Renderer.node_of_mem_tour member
    obtain rfl := List.mem_singleton.mp among
    obtain ⟨type, typed, known⟩ := builtin step.node inside
    rcases obstacle_cases typed known stuck with ⟨broken, same⟩ | ⟨same, large⟩
    · exact .inl ⟨step.node, inside, type, typed, broken, same⟩
    · exact .inr ⟨same, step.node, inside, large⟩

/-- An image in a container, as wide as is said. -/
def framedImage (width : Nat) : Value :=
  .object [("type", .str "Container"), ("params", .object []),
    ("children", .list [.object [("type", .str "Image"),
      ("params", .object [("src", .str "x.png"), ("width", .int width)])]])]

theorem mem_nodes_framedImage {width : Nat} {node : Value} :
    node ∈ (framedImage width).nodes ↔ node = framedImage width ∨
      node = .object [("type", .str "Image"),
        ("params", .object [("src", .str "x.png"), ("width", .int width)])] := by
  simp [framedImage, Value.nodes_eq, Value.childNodes, Fields.get?]

theorem allBuiltin_framedImage (width : Nat) : AllBuiltin [framedImage width] := by
  intro root among node inside
  obtain rfl := List.mem_singleton.mp among
  rcases mem_nodes_framedImage.mp inside with rfl | rfl
  · exact ⟨"Container", rfl, by simp [ofId?]⟩
  · exact ⟨"Image", rfl, by simp [ofId?]⟩

theorem fulfils_framedImage {width : Nat} {node : Value} (inside : node ∈ (framedImage width).nodes) :
    Fulfils node := by
  rcases mem_nodes_framedImage.mp inside with rfl | rfl
  · exact (⟨by decide, by simp [TextIfGiven, Fields.get?], by simp [OneOfIfGiven, Fields.get?]⟩ :
      Container.Contract [])
  · have number : Image.NumberIfGiven [("src", .str "x.png"), ("width", .int width)] "width" := by
      intro value found
      obtain rfl : Value.int width = value := by simpa [Fields.get?] using found
      rfl
    have met : Image.Contract [("src", .str "x.png"), ("width", .int width)] :=
      { known := by simp [Fields.keys]
        src := ⟨"x.png", rfl, by decide⟩
        alt := by simp [TextIfGiven, Fields.get?]
        width := number
        height := by simp [Image.NumberIfGiven, Fields.get?]
        className := by simp [TextIfGiven, Fields.get?] }
    exact met

theorem measurable_width_iff {width : Nat} :
    Measurable [("src", .str "x.png"), ("width", .int width)] ↔ width < Binary64.ceiling := by
  simp [Measurable, InRangeIfGiven, Fields.get?]

theorem render_verdict_framedImage :
    ∃ registry node, addTo .empty = .ok registry ∧ Complete registry ∧ registry.allowlist = none ∧
      Node.validate (framedImage 640) = .ok node ∧ AllBuiltin [framedImage 640] ∧
      ∃ text, (Hub.render .silent (framedImage 640) (.data .null) ⟨registry, []⟩).1 = .ok text := by
  have added : addTo .empty = .ok _ := rfl
  obtain ⟨complete, unlimited⟩ := complete_addTo_empty added
  have valid : Node.validate (framedImage 640) = .ok _ := rfl
  obtain ⟨-, shown, -⟩ := render_verdict .silent valid (allBuiltin_framedImage 640) complete
    unlimited (.data .null) []
  refine ⟨_, _, added, complete, unlimited, valid, allBuiltin_framedImage 640, shown.mpr ?_⟩
  intro node inside
  refine ⟨fulfils_framedImage inside, ?_⟩
  rcases mem_nodes_framedImage.mp inside with rfl | rfl
  · simp [Showable, framedImage, Value.typeOf, Fields.getD, Fields.get?]
  · intro _
    exact measurable_width_iff.mpr (by decide +kernel)

theorem firstObstacle_framedImage {width : Nat} (wide : Binary64.ceiling ≤ width) :
    (tour [] 0 [framedImage width]).findSome? obstacle = some (.misuse .tooLarge) := by
  let image : Value := .object [("type", .str "Image"),
    ("params", .object [("src", .str "x.png"), ("width", .int width)])]
  have container : obstacle (.enter [0] (framedImage width)) = none :=
    (obstacle_enter_eq_none_iff rfl (by simp [ofId?]) [0]).mpr
      (fulfils_framedImage (mem_nodes_framedImage.mpr (.inl rfl)))
  have entered : obstacle (.enter [0, 0] image) = none :=
    (obstacle_enter_eq_none_iff rfl (by simp [ofId?]) [0, 0]).mpr
      (fulfils_framedImage (mem_nodes_framedImage.mpr (.inr rfl)))
  have hidden : ¬ Showable image := by
    intro shown
    exact absurd (measurable_width_iff.mp (shown rfl)) (Nat.not_lt.mpr wide)
  have left : obstacle (.leave [0, 0] image) = some (.misuse .tooLarge) := by
    rw [obstacle, if_neg hidden]
  have below : (framedImage width).childNodes = [image] := rfl
  have nothing : image.childNodes = [] := rfl
  have inside : (tour [0] 0 [image]).findSome? obstacle = some (.misuse .tooLarge) := by
    rw [tour, List.findSome?_cons, entered, nothing, tour, List.nil_append, List.findSome?_cons,
      left]
  rw [tour, List.findSome?_cons, container, List.findSome?_append, below, inside]
  rfl

/-- All nodes keep their contracts, and yet the tree comes to no text and to no refusal of
params: the image is too wide for a double. -/
theorem framedImage_tooWide :
    ∃ registry node, addTo .empty = .ok registry ∧ registry.allowlist = none ∧
      Node.validate (framedImage (Nat.pow 10 309)) = .ok node ∧
      AllBuiltin [framedImage (Nat.pow 10 309)] ∧
      (∀ node ∈ (framedImage (Nat.pow 10 309)).nodes, Fulfils node) ∧
      (Hub.render .silent (framedImage (Nat.pow 10 309)) (.data .null) ⟨registry, []⟩).1 =
        .error (.misuse .tooLarge) := by
  have added : addTo .empty = .ok _ := rfl
  obtain ⟨complete, unlimited⟩ := complete_addTo_empty added
  have valid : Node.validate (framedImage (Nat.pow 10 309)) = .ok _ := rfl
  have all := allBuiltin_framedImage (Nat.pow 10 309)
  have verdict : faultOf (Hub.render .silent (framedImage (Nat.pow 10 309)) (.data .null)
      ⟨_, []⟩).1 = _ := faultOf_hubRender .silent valid all complete unlimited (.data .null) []
  rw [firstObstacle_framedImage (by decide +kernel)] at verdict
  exact ⟨_, _, added, unlimited, valid, all, fun _ => fulfils_framedImage,
    faultOf_eq_some_iff.mp verdict⟩

end PageComposer.Builtin
