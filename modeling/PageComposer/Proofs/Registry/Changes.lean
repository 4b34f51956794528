import PageComposer.Proofs.Program
import PageComposer.Registry.Delivery

/-!
# What a change of a registry does

One lemma for each operation that changes a registry says all that it does when it
succeeds: under which conditions, and what the registry is then.  `change_ok` is about
any change.

When it fails it does nothing, since whatever may go wrong comes before the first write:
`atomic_ofChange` follows the programs of the changes step by step.
-/

namespace PageComposer.Registry

open Program (LooksOnly Succeeds Atomic)

variable {registry changed : Registry}

/-! ### What a failure leaves -/

namespace Update

variable {Result : Type} {update : Update Result}

theorem looksOnly_freshId (plugin : Plugin) : LooksOnly (freshId plugin) := by
  unfold freshId
  cases plugin.id with
  | str id =>
      dsimp only
      split
      · exact Program.looksOnly_throw _
      · refine Program.looksOnly_get.bind fun registry => ?_
        split
        · exact Program.looksOnly_throw _
        · exact Program.looksOnly_pure id
  | _ => exact Program.looksOnly_throw _

theorem succeeds_keep (id : String) (validator : Option Validator) :
    Succeeds (keep id validator) := by
  cases validator with
  | none => exact Program.succeeds_pure _
  | some validator => exact Program.succeeds_modify _

/-- The id, the metadata and the schema are all checked before the first write. -/
theorem atomic_register (plugin : Plugin) (given : MetadataArgument) :
    Atomic (register plugin given) := by
  refine (looksOnly_freshId plugin).atomic_bind fun id => ?_
  refine (Program.looksOnly_lift (metadataFor id plugin given)).atomic_bind fun metadata => ?_
  refine Program.looksOnly_get.atomic_bind fun registry => ?_
  refine (Program.looksOnly_lift (compile registry.library id plugin.schema)).atomic_bind
    fun validator => ?_
  -- All that is left are the two writes, and neither can fail.
  apply Succeeds.atomic
  exact (Program.succeeds_modify _).bind fun _ =>
    (succeeds_keep id validator).bind fun _ => Program.succeeds_pure _

theorem atomic_unregister (id : Value) : Atomic (unregister id) := by
  refine Program.looksOnly_get.atomic_bind fun registry => ?_
  refine (Program.looksOnly_lift (registry.lookup id)).atomic_bind fun found => ?_
  cases found with
  | none => exact (Program.looksOnly_throw _).atomic
  | some registration =>
      apply Succeeds.atomic
      exact (Program.succeeds_modify _).bind fun _ =>
        (Program.succeeds_modify _).bind fun _ => Program.succeeds_pure _

theorem atomic_setAllowlist (ids : Value) : Atomic (setAllowlist ids) := by
  refine (Program.looksOnly_lift (allowedIds? ids)).atomic_bind fun allowed => ?_
  apply Succeeds.atomic
  exact (Program.succeeds_modify _).bind fun _ => Program.succeeds_pure _

/-- A change that fails leaves the registry as it was. -/
theorem atomic_ofChange (change : Change) : Atomic (ofChange change) := by
  cases change with
  | register plugin given =>
      exact (atomic_register plugin given).bind_succeeds fun _ => Program.succeeds_pure _
  | unregister id => exact (atomic_unregister id).bind_succeeds fun _ => Program.succeeds_pure _
  | setAllowlist ids =>
      exact (atomic_setAllowlist ids).bind_succeeds fun _ => Program.succeeds_pure _
  | subscribe subscription | unsubscribe subscription =>
      exact ((Program.succeeds_modify _).bind fun _ => Program.succeeds_pure _).atomic

theorem result_ok {result : Result} (came : update.result registry = .ok (changed, result)) :
    update.answer registry = (.ok result, changed) := by
  unfold Update.result at came
  rcases answered : update.answer registry with ⟨fault | given, after⟩
  · simp [answered] at came
  · simp only [answered, Except.ok.injEq, Prod.mk.injEq] at came
    obtain ⟨rfl, rfl⟩ := came
    rfl

theorem result_of_answer {result : Result}
    (answered : update.answer registry = (.ok result, changed)) :
    update.result registry = .ok (changed, result) := by
  rw [Update.result, answered]

end Update

/-! ### What a success does -/

theorem freshId_ok {plugin : Plugin} {id : String}
    (came : (Update.freshId plugin).answer registry = (.ok id, changed)) :
    plugin.id = .str id ∧ id ≠ "" ∧ registry.find? id = none ∧ changed = registry := by
  have looked := Update.looksOnly_freshId plugin registry
  rw [came] at looked
  unfold Update.freshId at came
  split at came
  · rename_i name named
    split at came
    · simp at came
    · rename_i given
      rw [Program.answer_bind, Program.answer_get] at came
      dsimp only at came
      split at came
      · simp at came
      · rename_i new
        simp only [Program.answer_pure, Prod.mk.injEq, Except.ok.injEq] at came
        obtain ⟨rfl, -⟩ := came
        exact ⟨named, by simpa using given, by simpa using new, looked⟩
  · simp at came

/-- A plugin that is accepted comes behind those that are there, with its validator if it has
a schema. -/
theorem register_ok {plugin : Plugin} {argument : MetadataArgument} {event : Event}
    (accepted : registry.register plugin argument = .ok (changed, event)) :
    ∃ id metadata validator, plugin.id = .str id ∧ id ≠ "" ∧ registry.find? id = none ∧
      metadataFor id plugin argument = .ok metadata ∧
      compile registry.library id plugin.schema = .ok validator ∧ event = .registered id ∧
      changed = { registry with
        registrations := registry.registrations ++ [⟨id, plugin, metadata⟩]
        validators := registry.validators ++
          (validator.map fun validator => (id, validator)).toList } := by
  obtain ⟨id, between, fresh, rest⟩ :=
    Program.answer_bind_ok_iff.mp (Update.result_ok accepted)
  obtain ⟨named, proper, new, same⟩ := freshId_ok fresh
  rw [same] at rest
  rcases described : metadataFor id plugin argument with fault | metadata
  · simp [described, Program.answer_bind] at rest
  rcases compiled : compile registry.library id plugin.schema with fault | validator
  · simp [described, compiled, Program.answer_bind] at rest
  refine ⟨id, metadata, validator, named, proper, new, described, compiled, ?_⟩
  simp only [described, compiled, Program.answer_bind, Program.answer_lift, Program.answer_get,
    Update.enter, Program.answer_modify] at rest
  cases validator <;>
    simpa [Update.keep, Except.map, eq_comm] using rest

/-- A plugin is accepted if nothing speaks against it. -/
theorem register_of_ok {plugin : Plugin} {argument : MetadataArgument} {id : String}
    {metadata : Metadata} {validator : Option Validator} (named : plugin.id = .str id)
    (proper : id ≠ "") (new : registry.find? id = none)
    (described : metadataFor id plugin argument = .ok metadata)
    (compiled : compile registry.library id plugin.schema = .ok validator) :
    registry.register plugin argument = .ok ({ registry with
      registrations := registry.registrations ++ [⟨id, plugin, metadata⟩]
      validators := registry.validators ++
        (validator.map fun validator => (id, validator)).toList }, .registered id) := by
  apply Update.result_of_answer
  have fresh : (Update.freshId plugin).answer registry = (.ok id, registry) := by
    simp [Update.freshId, named, proper, new, Program.answer_bind]
  rw [Update.register, Program.answer_bind_ok fresh]
  simp only [described, compiled, Program.answer_bind, Program.answer_lift, Program.answer_get,
    Update.enter, Program.answer_modify]
  cases validator <;> simp [Update.keep]

/-- What is found under a value as id is found under a text. -/
theorem lookup_some {id : Value} {registration : Registration}
    (found : registry.lookup id = .ok (some registration)) :
    ∃ name, id = .str name ∧ registry.find? name = some registration := by
  cases id with
  | str name => exact ⟨name, rfl, Except.ok.inj found⟩
  | _ => simp [lookup, Value.asKey, Value.canBeKey, bind, Except.bind, pure, Except.pure] at found

/-- A plugin that is taken back goes with its validator, and nothing else goes. -/
theorem unregister_ok {id : Value} {event : Event}
    (accepted : registry.unregister id = .ok (changed, event)) :
    ∃ name registration, id = .str name ∧ registry.find? name = some registration ∧
      registration.id = name ∧ event = .unregistered name ∧
      changed = { registry with
        registrations := registry.registrations.filter fun other => other.id ≠ name
        validators := registry.validators.filter fun entry => entry.1 ≠ name } := by
  have came := Update.result_ok accepted
  rw [Update.unregister, Program.answer_bind, Program.answer_get] at came
  rcases found : registry.lookup id with fault | _ | registration
  · simp [found, Program.answer_bind] at came
  · simp [found, Program.answer_bind] at came
  · obtain ⟨name, rfl, present⟩ := lookup_some found
    have named : registration.id = name := by
      simpa using List.find?_some present
    simp only [found, Program.answer_bind, Program.answer_lift, Update.remove, Update.forget,
      Program.answer_modify, Program.answer_pure, named, Prod.mk.injEq,
      Except.ok.injEq] at came
    obtain ⟨rfl, rfl⟩ := came
    exact ⟨name, registration, rfl, present, named, rfl, rfl⟩

theorem allowedIds?_texts (ids : List String) :
    allowedIds? (.list (ids.map .str)) = .ok (some ids.eraseDups) := by
  have texts : Schema.texts? (ids.map .str) = some ids := by
    induction ids with
    | nil => rfl
    | cons id rest induction => simp [Schema.texts?, induction]
  have keys : ((ids.map Value.str).any fun item => !item.canBeKey) = false := by
    simp [Value.canBeKey]
  simp [allowedIds?, texts, keys]

theorem answer_setAllowlist {ids : Value} {allowed : Option (List String)}
    (read : allowedIds? ids = .ok allowed) (registry : Registry) :
    (Update.setAllowlist ids).answer registry =
      (.ok (.allowlistChanged allowed), { registry with allowlist := allowed }) := by
  simp [Update.setAllowlist, read, Program.answer_bind, Update.allow, Except.map]

/-- A new allowlist takes the place of the old one as a whole. -/
theorem setAllowlist_ok {ids : Value} {event : Event}
    (accepted : registry.setAllowlist ids = .ok (changed, event)) :
    ∃ allowed, allowedIds? ids = .ok allowed ∧ event = .allowlistChanged allowed ∧
      changed = { registry with allowlist := allowed } := by
  have came := Update.result_ok accepted
  rcases read : allowedIds? ids with fault | allowed
  · simp [Update.setAllowlist, read, Program.answer_bind] at came
  · rw [answer_setAllowlist read] at came
    simp only [Prod.mk.injEq, Except.ok.injEq] at came
    obtain ⟨rfl, rfl⟩ := came
    exact ⟨allowed, rfl, rfl, rfl⟩

/-- The program of a change comes to what the change is, and a failure to nothing else. -/
theorem answer_ofChange (change : Change) (registry : Registry) :
    (Update.ofChange change).answer registry =
      match registry.change change with
      | .ok (changed, event) => (.ok event, changed)
      | .error fault => (.error fault, registry) := by
  have atomic := Update.atomic_ofChange change registry
  rw [Registry.change, Update.result]
  rcases answered : (Update.ofChange change).answer registry with ⟨fault | event, left⟩
  · have same : left = registry := by
      simpa [answered] using atomic fault (by rw [answered])
    rw [same]
  · rfl

theorem change_setAllowlist {ids : Value} {allowed : Option (List String)}
    (read : allowedIds? ids = .ok allowed) :
    registry.change (.setAllowlist ids) =
      .ok ({ registry with allowlist := allowed }, some (.allowlistChanged allowed)) := by
  apply Update.result_of_answer
  rw [Update.ofChange, Program.answer_map, answer_setAllowlist read]
  rfl

theorem change_setAllowlist_error {ids : Value} {fault : Fault}
    (refused : allowedIds? ids = .error fault) :
    registry.change (.setAllowlist ids) = .error fault := by
  rw [Registry.change, Update.result, Update.ofChange, Program.answer_map, Update.setAllowlist,
    Program.answer_bind, Program.answer_lift, refused]
  rfl

theorem told_ok {update : Update Event} {event : Option Event}
    (made : Update.result (some <$> update) registry = .ok (changed, event)) :
    ∃ told, event = some told ∧ update.result registry = .ok (changed, told) := by
  have came := Update.result_ok made
  rw [Program.answer_map] at came
  rcases answered : update.answer registry with ⟨fault | told, after⟩
  · simp [answered, Except.map] at came
  · simp only [answered, Except.map, Prod.mk.injEq, Except.ok.injEq] at came
    obtain ⟨rfl, rfl⟩ := came
    exact ⟨told, rfl, Update.result_of_answer answered⟩

theorem change_register_of_ok {plugin : Plugin} {argument : MetadataArgument} {event : Event}
    (accepted : registry.register plugin argument = .ok (changed, event)) :
    registry.change (.register plugin argument) = .ok (changed, some event) := by
  apply Update.result_of_answer
  rw [Update.ofChange, Program.answer_map, Update.result_ok accepted]
  rfl

theorem change_subscribe (subscription : Subscription) :
    registry.change (.subscribe subscription) = .ok (registry.subscribe subscription, none) := rfl

theorem change_unsubscribe (subscription : Subscription) :
    registry.change (.unsubscribe subscription) =
      .ok (registry.unsubscribe subscription, none) := rfl

/-- What a change that is made can be. -/
theorem change_ok {change : Change} {event : Option Event}
    (made : registry.change change = .ok (changed, event)) :
    (∃ plugin argument told, change = .register plugin argument ∧ event = some told ∧
      registry.register plugin argument = .ok (changed, told)) ∨
    (∃ id told, change = .unregister id ∧ event = some told ∧
      registry.unregister id = .ok (changed, told)) ∨
    (∃ ids told, change = .setAllowlist ids ∧ event = some told ∧
      registry.setAllowlist ids = .ok (changed, told)) ∨
    (((∃ subscription, change = .subscribe subscription) ∨
        ∃ subscription, change = .unsubscribe subscription) ∧
      event = none ∧
      ∃ subscriptions, changed = { registry with subscriptions := subscriptions }) := by
  cases change with
  | register plugin argument =>
      obtain ⟨told, rfl, accepted⟩ := told_ok made
      exact .inl ⟨plugin, argument, told, rfl, rfl, accepted⟩
  | unregister id =>
      obtain ⟨told, rfl, accepted⟩ := told_ok made
      exact .inr (.inl ⟨id, told, rfl, rfl, accepted⟩)
  | setAllowlist ids =>
      obtain ⟨told, rfl, accepted⟩ := told_ok made
      exact .inr (.inr (.inl ⟨ids, told, rfl, rfl, accepted⟩))
  | subscribe subscription =>
      rw [change_subscribe, Except.ok.injEq, Prod.mk.injEq] at made
      obtain ⟨rfl, rfl⟩ := made
      exact .inr (.inr (.inr ⟨.inl ⟨subscription, rfl⟩, rfl, _, rfl⟩))
  | unsubscribe subscription =>
      rw [change_unsubscribe, Except.ok.injEq, Prod.mk.injEq] at made
      obtain ⟨rfl, rfl⟩ := made
      exact .inr (.inr (.inr ⟨.inr ⟨subscription, rfl⟩, rfl, _, rfl⟩))

/-! ### What is found after a change -/

theorem isAllowed_iff_mem {ids : List String} (inForce : registry.allowlist = some ids)
    {id : String} : registry.isAllowed (.str id) = .ok true ↔ id ∈ ids := by
  simp [isAllowed, inForce]

theorem validateParams_of_known {id : String} {schema : Schema}
    (known : registry.validator? id = some (.known schema)) (params : Value) :
    registry.validateParams (.str id) params =
      match schema.report params with
      | [] => .ok ()
      | findings => .error (refused ("Invalid params for plugin " ++ id) .pluginInvalidParams
          (.list (findings.map Finding.toValue))) := by
  simp only [validateParams, known, Validator.report]
  rfl

theorem find?_of_append {registration : Registration}
    (grown : changed.registrations = registry.registrations ++ [registration]) (id : String) :
    changed.find? id =
      (registry.find? id).or (if registration.id = id then some registration else none) := by
  simp only [find?, grown, List.find?_append]
  by_cases same : registration.id = id <;> simp [same]

theorem validator?_of_append {name : String} {compiled : Option Validator}
    (grown : changed.validators =
      registry.validators ++ (compiled.map fun validator => (name, validator)).toList)
    (id : String) :
    changed.validator? id =
      (registry.validator? id).or (if name = id then compiled else none) := by
  simp only [validator?, grown, List.find?_append, Option.map_or]
  cases compiled <;> by_cases same : name = id <;> simp [same]

/-- What went is not found any more, and the rest is found as before. -/
theorem find?_filter_key {Entry : Type} (key : Entry → String) (entries : List Entry)
    (name id : String) :
    (entries.filter fun entry => key entry ≠ name).find? (fun entry => key entry = id) =
      if id = name then none else entries.find? fun entry => key entry = id := by
  rw [List.find?_filter]
  split
  · rename_i same
    simp [same]
  · rename_i other
    congr 1
    funext entry
    by_cases same : key entry = id
    · simp [same, other]
    · simp [same]

theorem find?_of_filter {name : String}
    (shrunk : changed.registrations =
      registry.registrations.filter fun other => other.id ≠ name) (id : String) :
    changed.find? id = if id = name then none else registry.find? id := by
  rw [find?, shrunk]
  exact find?_filter_key Registration.id registry.registrations name id

theorem validator?_of_filter {name : String}
    (shrunk : changed.validators = registry.validators.filter fun entry => entry.1 ≠ name)
    (id : String) :
    changed.validator? id = if id = name then none else registry.validator? id := by
  rw [validator?, shrunk, find?_filter_key Prod.fst]
  split
  · rfl
  · rfl

end PageComposer.Registry

/-! ### What a change does to a hub -/

namespace PageComposer.Hub

/-- A change is made and told, or it fails and leaves the hub as it was. -/
theorem step_eq (react : String → Event → Reaction) (ask : Change → Hub → Outcome Unit × Hub)
    (change : Change) (hub : Hub) :
    step react ask change hub =
      match hub.registry.change change with
      | .error fault => (.error fault, hub)
      | .ok (changed, none) => (.ok (), { hub with registry := changed })
      | .ok (changed, some event) =>
          (.ok (), announce react ask event { hub with registry := changed }) := by
  rw [step, Registry.answer_ofChange]
  rcases hub.registry.change change with fault | ⟨changed, _ | event⟩ <;> rfl

end PageComposer.Hub
