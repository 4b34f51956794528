import PageComposer.Builtin
import PageComposer.Proofs.Registry.Changes
import PageComposer.Proofs.Renderer.Walks
import PageComposer.Proofs.Schema.Conformance

/-!
# The contracts of the built-in plugins

Each built-in plugin has a contract for its params: the schema lets through the params
that keep it and no others.  `InPlace` says that whatever stands under the id of a
built-in plugin is that plugin, with its schema.  It holds of a registry with the built-in
plugins alone and is kept by every change that brings in no other plugin under such an id,
and it makes the renderer hand to a built-in plugin only params that keep its contract.
-/

namespace PageComposer.Builtin

/-- A param is a text where it is given. -/
def TextIfGiven (params : Fields) (name : String) : Prop :=
  ∀ value, Fields.get? params name = some value → ∃ text, value = .str text

theorem textIfGiven_iff {params : Fields} {name : String} :
    TextIfGiven params name ↔ ∀ value, Fields.get? params name = some value →
      (Schema.ofType .string).findings value = [] := by
  refine forall₂_congr fun value _ => ?_
  rw [Schema.ofType_eq_nil_iff]
  cases value <;> simp [TypeName.admits]

/-- A param is one of some texts where it is given. -/
def OneOfIfGiven (params : Fields) (name : String) (choices : List String) : Prop :=
  ∀ value, Fields.get? params name = some value → ∃ text ∈ choices, value = .str text

theorem oneOfIfGiven_iff {params : Fields} {name : String} {choices : List String} :
    OneOfIfGiven params name choices ↔ ∀ value, Fields.get? params name = some value →
      (Schema.demands [.type [.string], .oneOf (choices.map .str)]).findings value = [] := by
  refine forall₂_congr fun value _ => ?_
  rw [Schema.findings, Schema.rulesFindings_eq_nil_iff]
  cases value with
  | str text => simp [Schema.type_eq_nil_iff, TypeName.admits, Schema.oneOf_eq_nil_iff]
  | _ => simp [Schema.type_eq_nil_iff, TypeName.admits]

theorem requiredText_iff {params : Fields} {name : String} :
    Fields.has params name = true ∧ TextIfGiven params name ↔
      ∃ text, Fields.get? params name = some (.str text) := by
  cases found : Fields.get? params name with
  | none => simp [Fields.has, found]
  | some value => simp [Fields.has, TextIfGiven, found]

namespace Container

def compiled : Schema :=
  .ofParams [] [("class", .ofType .string),
    ("tag", .demands [.type [.string], .oneOf (tags.map .str)])]

theorem ofValue?_schema : Schema.ofValue? schema = some compiled := rfl

structure Contract (params : Fields) : Prop where
  known : ∀ key ∈ Fields.keys params, key ∈ ["class", "tag"]
  className : TextIfGiven params "class"
  tag : OneOfIfGiven params "tag" tags

theorem report_eq_nil_iff {params : Value} :
    compiled.report params = [] ↔ ∃ fields, params = .object fields ∧ Contract fields := by
  rw [compiled, Schema.report_params_eq_nil_iff]
  refine exists_congr fun fields => and_congr_right fun _ => ?_
  simp only [List.map_cons, List.map_nil, List.not_mem_nil, false_implies, implies_true,
    List.forall_mem_cons, and_true, true_and, ← textIfGiven_iff, ← oneOfIfGiven_iff]
  exact ⟨fun ⟨known, className, tag⟩ => ⟨known, className, tag⟩,
    fun ⟨known, className, tag⟩ => ⟨known, className, tag⟩⟩

end Container

namespace TextBlock

def compiled : Schema :=
  .ofParams ["text"] [("text", .ofType .string),
    ("tag", .demands [.type [.string], .oneOf (tags.map .str)]), ("class", .ofType .string)]

theorem ofValue?_schema : Schema.ofValue? schema = some compiled := rfl

structure Contract (params : Fields) : Prop where
  known : ∀ key ∈ Fields.keys params, key ∈ ["text", "tag", "class"]
  text : ∃ text, Fields.get? params "text" = some (.str text)
  tag : OneOfIfGiven params "tag" tags
  className : TextIfGiven params "class"

theorem report_eq_nil_iff {params : Value} :
    compiled.report params = [] ↔ ∃ fields, params = .object fields ∧ Contract fields := by
  rw [compiled, Schema.report_params_eq_nil_iff]
  refine exists_congr fun fields => and_congr_right fun _ => ?_
  simp only [List.map_cons, List.map_nil, List.not_mem_nil, false_implies, implies_true,
    List.forall_mem_cons, and_true, ← textIfGiven_iff, ← oneOfIfGiven_iff]
  constructor
  · rintro ⟨known, given, text, tag, className⟩
    exact ⟨known, requiredText_iff.mp ⟨given, text⟩, tag, className⟩
  · rintro ⟨known, text, tag, className⟩
    obtain ⟨given, text⟩ := requiredText_iff.mpr text
    exact ⟨known, given, text, tag, className⟩

end TextBlock

namespace Image

def compiled : Schema :=
  .ofParams ["src"] [("src", .demands [.type [.string], .atLeast .characters 1]),
    ("alt", .ofType .string), ("width", .ofType .number), ("height", .ofType .number),
    ("class", .ofType .string)]

theorem ofValue?_schema : Schema.ofValue? schema = some compiled := rfl

/-- A param is a number where it is given. -/
def NumberIfGiven (params : Fields) (name : String) : Prop :=
  ∀ value, Fields.get? params name = some value → value.number?.isSome = true

structure Contract (params : Fields) : Prop where
  known : ∀ key ∈ Fields.keys params, key ∈ ["src", "alt", "width", "height", "class"]
  src : ∃ text, Fields.get? params "src" = some (.str text) ∧ text ≠ ""
  alt : TextIfGiven params "alt"
  width : NumberIfGiven params "width"
  height : NumberIfGiven params "height"
  className : TextIfGiven params "class"

theorem numberIfGiven_iff {params : Fields} {name : String} :
    NumberIfGiven params name ↔ ∀ value, Fields.get? params name = some value →
      (Schema.ofType .number).findings value = [] := by
  refine forall₂_congr fun value _ => ?_
  rw [Schema.ofType_eq_nil_iff]
  cases value <;> simp [TypeName.admits, Value.number?]

theorem src_iff {params : Fields} :
    (∃ text, Fields.get? params "src" = some (.str text) ∧ text ≠ "") ↔
      Fields.has params "src" = true ∧ ∀ value, Fields.get? params "src" = some value →
        (Schema.demands [.type [.string], .atLeast .characters 1]).findings value = [] := by
  cases found : Fields.get? params "src" with
  | none => simp [Fields.has, found]
  | some value =>
      simp only [Fields.has, found, Option.isSome_some, Option.some.injEq, true_and,
        forall_eq', Schema.findings, Schema.rulesFindings_eq_nil_iff, List.forall_mem_cons,
        Schema.type_eq_nil_iff]
      cases value with
      | str text =>
          simp [TypeName.admits, Schema.ruleFindings, Schema.plainFindings, Measure.of?,
            Nat.one_le_iff_ne_zero]
      | _ => simp [TypeName.admits]

theorem report_eq_nil_iff {params : Value} :
    compiled.report params = [] ↔ ∃ fields, params = .object fields ∧ Contract fields := by
  rw [compiled, Schema.report_params_eq_nil_iff]
  refine exists_congr fun fields => and_congr_right fun _ => ?_
  simp only [List.map_cons, List.map_nil, List.not_mem_nil, false_implies, implies_true,
    List.forall_mem_cons, and_true, ← textIfGiven_iff, ← numberIfGiven_iff]
  constructor
  · rintro ⟨known, given, src, alt, width, height, className⟩
    exact ⟨known, src_iff.mpr ⟨given, src⟩, alt, width, height, className⟩
  · rintro ⟨known, src, alt, width, height, className⟩
    obtain ⟨given, src⟩ := src_iff.mp src
    exact ⟨known, given, src, alt, width, height, className⟩

end Image

namespace List

def compiled : Schema :=
  .ofParams ["items"] [("items", .ofType .array), ("ordered", .ofType .boolean),
    ("class", .ofType .string), ("itemClass", .ofType .string), ("itemKey", .ofType .string)]

theorem ofValue?_schema : Schema.ofValue? schema = some compiled := rfl

structure Contract (params : Fields) : Prop where
  known : ∀ key ∈ Fields.keys params,
    key ∈ ["items", "ordered", "class", "itemClass", "itemKey"]
  items : ∃ items, Fields.get? params "items" = some (.list items)
  ordered : ∀ value, Fields.get? params "ordered" = some value → ∃ flag, value = .bool flag
  className : TextIfGiven params "class"
  itemClass : TextIfGiven params "itemClass"
  itemKey : TextIfGiven params "itemKey"

theorem items_iff {params : Fields} :
    (∃ items, Fields.get? params "items" = some (.list items)) ↔
      Fields.has params "items" = true ∧ ∀ value, Fields.get? params "items" = some value →
        (Schema.ofType .array).findings value = [] := by
  simp only [Schema.ofType_eq_nil_iff]
  cases found : Fields.get? params "items" with
  | none => simp [Fields.has, found]
  | some value => cases value <;> simp [Fields.has, found, TypeName.admits]

theorem ordered_iff {params : Fields} :
    (∀ value, Fields.get? params "ordered" = some value → ∃ flag, value = .bool flag) ↔
      ∀ value, Fields.get? params "ordered" = some value →
        (Schema.ofType .boolean).findings value = [] := by
  refine forall₂_congr fun value _ => ?_
  rw [Schema.ofType_eq_nil_iff]
  cases value <;> simp [TypeName.admits]

theorem report_eq_nil_iff {params : Value} :
    compiled.report params = [] ↔ ∃ fields, params = .object fields ∧ Contract fields := by
  rw [compiled, Schema.report_params_eq_nil_iff]
  refine exists_congr fun fields => and_congr_right fun _ => ?_
  simp only [List.map_cons, List.map_nil, List.not_mem_nil, false_implies, implies_true,
    List.forall_mem_cons, and_true, ← textIfGiven_iff, ← ordered_iff]
  constructor
  · rintro ⟨known, given, items, ordered, className, itemClass, itemKey⟩
    exact ⟨known, items_iff.mpr ⟨given, items⟩, ordered, className, itemClass, itemKey⟩
  · rintro ⟨known, items, ordered, className, itemClass, itemKey⟩
    obtain ⟨given, items⟩ := items_iff.mp items
    exact ⟨known, given, items, ordered, className, itemClass, itemKey⟩

end List

/-! ### Built-in plugins in a registry -/

/-- The compiled schema and the body of the built-in plugin of an id. -/
def ofId? : String → Option (Schema × (RenderArgs → Outcome String))
  | "Container" => some (Container.compiled, Container.render)
  | "TextBlock" => some (TextBlock.compiled, TextBlock.render)
  | "Image" => some (Image.compiled, Image.render)
  | "List" => some (List.compiled, List.render)
  | _ => none

/-- What stands under the id of a built-in plugin, if anything does, is that plugin with
its schema. -/
def InPlace (registry : Registry) : Prop :=
  ∀ id schema render, ofId? id = some (schema, render) →
    registry.find? id = none ∧ registry.validator? id = none ∨
    ∃ registration, registry.find? id = some registration ∧
      registration.plugin.body = (some fun args => .ofOutcome (render args)) ∧
      registry.validator? id = some (.known schema)

/-- A built-in plugin is entered with params that its schema finds nothing wrong with. -/
theorem InPlace.admission_ok {registry : Registry} {id : String} {params : Value}
    {schema : Schema} {render : RenderArgs → Outcome String} {body : RenderArgs → RenderBody}
    (inPlace : InPlace registry) (named : ofId? id = some (schema, render))
    (admitted : Renderer.admission registry (.str id) params = .ok body) :
    body = (fun args => .ofOutcome (render args)) ∧ schema.report params = [] := by
  obtain ⟨-, valid, own, registration, sameId, found, hasBody⟩ :=
    Renderer.admission_ok_iff.mp admitted
  obtain rfl := Value.str.inj sameId
  rcases inPlace id schema render named with ⟨absent, -⟩ | ⟨builtin, builtinFound, builtinBody,
    validator⟩
  · simp [absent] at found
  · obtain rfl : builtin = registration := by simpa [builtinFound] using found
    refine ⟨by simpa [builtinBody, eq_comm] using hasBody, ?_⟩
    cases report : schema.report params with
    | nil => rfl
    | cons finding others =>
        simp [Registry.validateParams_of_known validator, report] at valid

/-! ### Changes that leave the built-in plugins in place -/

theorem ofId?_of_mem {plugin : Plugin} (member : plugin ∈ plugins) (library : Schema.Library) :
    ∃ id schema render, plugin.id = .str id ∧ ofId? id = some (schema, render) ∧
      plugin.body = (some fun args => .ofOutcome (render args)) ∧
      Registry.compile library id plugin.schema = .ok (some (.known schema)) := by
  simp only [plugins, List.mem_cons, List.not_mem_nil, or_false] at member
  rcases member with rfl | rfl | rfl | rfl
  · exact ⟨"Container", Container.compiled, Container.render, rfl, rfl, rfl, rfl⟩
  · exact ⟨"TextBlock", TextBlock.compiled, TextBlock.render, rfl, rfl, rfl, rfl⟩
  · exact ⟨"Image", Image.compiled, Image.render, rfl, rfl, rfl, rfl⟩
  · exact ⟨"List", List.compiled, List.render, rfl, rfl, rfl, rfl⟩

theorem inPlace_empty : InPlace Registry.empty := fun _ _ _ _ => .inl ⟨rfl, rfl⟩

theorem InPlace.register {registry changed : Registry} {plugin : Plugin}
    {argument : MetadataArgument} {event : Event} (inPlace : InPlace registry)
    (accepted : registry.register plugin argument = .ok (changed, event))
    (native : ∀ id, plugin.id = .str id → ofId? id ≠ none → plugin ∈ plugins) :
    InPlace changed := by
  obtain ⟨name, metadata, validator, named, -, new, -, schemaRead, -, same⟩ :=
    Registry.register_ok accepted
  have registered : changed.registrations =
      registry.registrations ++ [⟨name, plugin, metadata⟩] := by rw [same]
  have validated : changed.validators = registry.validators ++
      (validator.map fun validator => (name, validator)).toList := by rw [same]
  have found := Registry.find?_of_append registered
  have checked := Registry.validator?_of_append validated
  intro id schema render builtin
  rw [found, checked]
  by_cases here : name = id
  · subst here
    obtain ⟨other, otherSchema, otherRender, otherNamed, sameBuiltin, body, otherRead⟩ :=
      ofId?_of_mem (native name named (by simp [builtin])) registry.library
    obtain rfl : name = other := by simpa [named] using otherNamed
    obtain ⟨rfl, rfl⟩ : schema = otherSchema ∧ render = otherRender := by
      simpa [builtin] using sameBuiltin
    obtain rfl : validator = some (.known schema) := by simpa [schemaRead] using otherRead
    have noValidator : registry.validator? name = none := by
      rcases inPlace name schema render builtin with ⟨-, absent⟩ | ⟨_, present, -⟩
      · exact absent
      · simp [new] at present
    exact .inr ⟨⟨name, plugin, metadata⟩, by simp [new], body, by simp [noValidator]⟩
  · simp only [here, if_false, Option.or_none]
    exact inPlace id schema render builtin

theorem InPlace.unregister {registry changed : Registry} {id : Value} {event : Event}
    (inPlace : InPlace registry) (accepted : registry.unregister id = .ok (changed, event)) :
    InPlace changed := by
  obtain ⟨name, registration, -, -, -, -, same⟩ := Registry.unregister_ok accepted
  have registered : changed.registrations =
      registry.registrations.filter fun other => other.id ≠ name := by rw [same]
  have validated : changed.validators =
      registry.validators.filter fun entry => entry.1 ≠ name := by rw [same]
  have found := Registry.find?_of_filter registered
  have checked := Registry.validator?_of_filter validated
  intro id schema render builtin
  rw [found, checked]
  by_cases here : id = name
  · simp [here]
  · simp only [here, if_false]
    exact inPlace id schema render builtin

/-- No change takes the built-in plugins out of place, unless it registers another plugin
under the id of one. -/
theorem InPlace.change {registry changed : Registry} {change : Change} {event : Option Event}
    (inPlace : InPlace registry) (made : registry.change change = .ok (changed, event))
    (native : ∀ plugin argument id, change = .register plugin argument →
      plugin.id = .str id → ofId? id ≠ none → plugin ∈ plugins) :
    InPlace changed := by
  rcases Registry.change_ok made with ⟨plugin, argument, told, rfl, -, accepted⟩ |
    ⟨id, told, -, -, accepted⟩ | ⟨ids, told, -, -, accepted⟩ | ⟨-, -, subscriptions, rfl⟩
  · exact inPlace.register accepted fun id named builtin =>
      native plugin argument id rfl named builtin
  · exact inPlace.unregister accepted
  · obtain ⟨allowed, -, -, rfl⟩ := Registry.setAllowlist_ok accepted
    exact inPlace
  · exact inPlace

/-- The built-in plugins are in place once they have been registered. -/
theorem InPlace.registerAll {registry changed : Registry} {chosen : List Plugin}
    (inPlace : InPlace registry) (among : ∀ plugin ∈ chosen, plugin ∈ plugins)
    (accepted : registerAll registry chosen = .ok changed) : InPlace changed := by
  induction chosen generalizing registry with
  | nil =>
      simp only [Builtin.registerAll, Except.ok.injEq] at accepted
      rwa [← accepted]
  | cons plugin rest induction =>
      rw [List.forall_mem_cons] at among
      rcases first : registry.register plugin .absent with fault | ⟨after, event⟩
      · simp [Builtin.registerAll, first, bind, Except.bind] at accepted
      · simp only [Builtin.registerAll, first, bind, Except.bind] at accepted
        exact induction (inPlace.register first fun _ _ _ => among.1) among.2 accepted

theorem inPlace_addTo_empty {registry : Registry} (added : addTo Registry.empty = .ok registry) :
    InPlace registry :=
  inPlace_empty.registerAll (fun _ => id) added

end PageComposer.Builtin
