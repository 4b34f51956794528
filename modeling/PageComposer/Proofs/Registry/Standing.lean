import PageComposer.Proofs.Registry.Changes

/-!
# What stands in a registry

`Registry.Reached` relates a registry to the changes that led to it from an empty one.
`Registry.Sound` says that the parts of a registry are in step with each other, and is kept by
every single change.  What of its history a registry shows are the `standing` registrations,
which nothing took back later.  `Registry.Faithful` puts the two together.
-/

namespace PageComposer

/-! ### Metadata -/

/-- Metadata as it would be handed in again. -/
def Metadata.toDraft (metadata : Metadata) : MetadataDraft where
  name := .str metadata.name
  category := .str metadata.category
  description := metadata.description
  version := metadata.version
  author := metadata.author
  tags := .list metadata.tags
  configuration := .object metadata.configuration

theorem Metadata.properText_ok_iff {message text : String} {value : Value} :
    properText message value = .ok text ↔ value = .str text ∧ text ≠ "" := by
  cases value with
  | str given =>
      rw [properText]
      split
      · rename_i empty
        obtain rfl : given = "" := by simpa using empty
        constructor
        · simp
        · rintro ⟨same, proper⟩
          cases same
          exact absurd rfl proper
      · rename_i proper
        have nonempty : given ≠ "" := by simpa using proper
        constructor
        · rintro ⟨⟩
          exact ⟨rfl, nonempty⟩
        · rintro ⟨⟨⟩, -⟩
          rfl
  | _ => simp [properText]

/-- A draft is accepted when it has a name and a category, a list of tags and a
configuration. -/
theorem Metadata.ofDraft_ok_iff {draft : MetadataDraft} {metadata : Metadata} :
    ofDraft draft = .ok metadata ↔
      draft = metadata.toDraft ∧ metadata.name ≠ "" ∧ metadata.category ≠ "" := by
  obtain ⟨name, category, description, version, author, tags, configuration⟩ := draft
  constructor
  · intro accepted
    rcases named : properText "Plugin metadata must have a valid name" name with fault | givenName
    · simp [ofDraft, named, bind, Except.bind] at accepted
    rcases placed : properText "Plugin metadata must have a valid category" category with
      fault | givenCategory
    · simp [ofDraft, named, placed, bind, Except.bind] at accepted
    obtain ⟨rfl, proper⟩ := properText_ok_iff.mp named
    obtain ⟨rfl, properToo⟩ := properText_ok_iff.mp placed
    cases tags with
    | list items =>
        cases configuration with
        | object fields =>
            simp only [ofDraft, named, placed, bind, Except.bind, pure, Except.pure,
              Except.ok.injEq] at accepted
            subst accepted
            exact ⟨rfl, proper, properToo⟩
        | _ => simp [ofDraft, named, placed, bind, Except.bind] at accepted
    | _ => simp [ofDraft, named, placed, bind, Except.bind] at accepted
  · rintro ⟨same, proper, properToo⟩
    have named : properText "Plugin metadata must have a valid name" (.str metadata.name) =
        .ok metadata.name := properText_ok_iff.mpr ⟨rfl, proper⟩
    have placed : properText "Plugin metadata must have a valid category"
        (.str metadata.category) = .ok metadata.category := properText_ok_iff.mpr ⟨rfl, properToo⟩
    rw [same, toDraft, ofDraft]
    simp only [named, placed, bind, Except.bind, pure, Except.pure]

/-! ### Changes one by one -/

namespace Registry

variable {registry changed : Registry} {changes : List Change} {change : Change}
  {event : Option Event}

theorem metadataFor_ok {id : String} {plugin : Plugin} {given : MetadataArgument}
    {metadata : Metadata} (accepted : metadataFor id plugin given = .ok metadata) :
    ∃ draft, Metadata.ofDraft draft = .ok metadata := by
  cases given with
  | absent => exact ⟨_, accepted⟩
  | draft draft => exact ⟨draft, accepted⟩
  | other => simp [metadataFor, bind, Except.bind] at accepted
  | entries fields =>
      unfold metadataFor at accepted
      simp only [bind, Except.bind] at accepted
      split at accepted
      · exact ⟨_, accepted⟩
      · simp at accepted

/-- There is a validator when the schema counts. -/
theorem compile_ok {library : Schema.Library} {id : String} {schema : Value}
    {validator : Option Validator} (accepted : compile library id schema = .ok validator) :
    validator.isSome = schema.truthy := by
  unfold compile at accepted
  split at accepted
  · rename_i untruthy
    obtain rfl : none = validator := Except.ok.inj accepted
    have falsy : schema.truthy = false := by simpa using untruthy
    rw [falsy]
    rfl
  · rename_i counts
    have truthy : schema.truthy = true := by simpa using counts
    split at accepted
    · simp at accepted
    · rcases read : Validator.ofValue? library schema with fault | _ | given
      · simp [read, bind, Except.bind] at accepted
      · simp [read, bind, Except.bind] at accepted
      · obtain rfl : some given = validator := by
          simpa [read, bind, Except.bind, pure, Except.pure] using accepted
        rw [truthy]
        rfl

theorem find?_eq_none_iff {id : String} : registry.find? id = none ↔ id ∉ registry.types := by
  simp only [find?, types, List.find?_eq_none, List.mem_map, decide_eq_true_eq, not_exists,
    not_and]

theorem find?_eq_some {id : String} {registration : Registration}
    (found : registry.find? id = some registration) :
    registration ∈ registry.registrations ∧ registration.id = id :=
  ⟨List.mem_of_find?_eq_some found, by simpa using List.find?_some found⟩

/-! ### Soundness -/

/-- The registrations, the metadata and the validators of a registry are in step. -/
structure Sound (registry : Registry) : Prop where
  distinct : registry.types.Nodup
  named : "" ∉ registry.types
  /-- Metadata passes its own check, which asks for the kinds of all that it holds. -/
  described : ∀ registration ∈ registry.registrations,
    Metadata.ofDraft registration.metadata.toDraft = .ok registration.metadata
  compiled : ∀ registration ∈ registry.registrations,
    compile registry.library registration.id registration.plugin.schema =
      .ok (registry.validator? registration.id)
  unregistered : ∀ id ∉ registry.types, registry.validator? id = none

theorem sound_new (library : Schema.Library) : Sound (new library) := by
  constructor <;> simp [new, types, validator?]

theorem Sound.register {plugin : Plugin} {argument : MetadataArgument} {told : Event}
    (sound : registry.Sound) (accepted : registry.register plugin argument = .ok (changed, told)) :
    changed.Sound := by
  obtain ⟨name, metadata, validator, -, proper, new, described, compiles, -, same⟩ :=
    register_ok accepted
  have library : changed.library = registry.library := by rw [same]
  have registered : changed.registrations =
      registry.registrations ++ [⟨name, plugin, metadata⟩] := by rw [same]
  have types : changed.types = registry.types ++ [name] := by
    rw [Registry.types, registered, List.map_append]
    rfl
  have checked (id : String) :
      changed.validator? id = (registry.validator? id).or (if name = id then validator else none) :=
    validator?_of_append (by rw [same]) id
  have absent : name ∉ registry.types := find?_eq_none_iff.mp new
  refine ⟨?_, ?_, ?_, ?_, ?_⟩
  · rw [types, List.nodup_append]
    refine ⟨sound.distinct, by simp, ?_⟩
    rintro id member _ last rfl
    exact absent (List.mem_singleton.mp last ▸ member)
  · rw [types, List.mem_append, List.mem_singleton]
    rintro (before | last)
    · exact sound.named before
    · exact proper last.symm
  · rw [registered]
    intro registration member
    rcases List.mem_append.mp member with before | last
    · exact sound.described registration before
    · obtain rfl := List.mem_singleton.mp last
      obtain ⟨draft, drafted⟩ := metadataFor_ok described
      have kept := Metadata.ofDraft_ok_iff.mp drafted
      exact Metadata.ofDraft_ok_iff.mpr ⟨rfl, kept.2⟩
  · rw [registered]
    intro registration member
    rw [checked, library]
    rcases List.mem_append.mp member with before | last
    · have other : name ≠ registration.id := by
        rintro rfl
        exact absent (List.mem_map_of_mem before)
      rw [if_neg other, Option.or_none]
      exact sound.compiled registration before
    · obtain rfl := List.mem_singleton.mp last
      rw [if_pos rfl, sound.unregistered name absent, Option.none_or]
      exact compiles
  · intro id missing
    rw [types, List.mem_append, List.mem_singleton, not_or] at missing
    rw [checked, sound.unregistered id missing.1, if_neg (Ne.symm missing.2), Option.or_none]

theorem Sound.unregister {id : Value} {told : Event} (sound : registry.Sound)
    (accepted : registry.unregister id = .ok (changed, told)) : changed.Sound := by
  obtain ⟨name, registration, -, -, -, -, same⟩ := unregister_ok accepted
  have library : changed.library = registry.library := by rw [same]
  have registered : changed.registrations =
      registry.registrations.filter fun other => other.id ≠ name := by rw [same]
  have checked (id : String) :
      changed.validator? id = if id = name then none else registry.validator? id :=
    validator?_of_filter (by rw [same]) id
  have kept (other : Registration) : other ∈ changed.registrations ↔
      other ∈ registry.registrations ∧ other.id ≠ name := by
    rw [registered, List.mem_filter, decide_eq_true_eq]
  have fewer : changed.types.Sublist registry.types := by
    rw [types, registered]
    exact List.filter_sublist.map _
  refine ⟨sound.distinct.sublist fewer, fun member => sound.named (fewer.subset member), ?_, ?_, ?_⟩
  · intro other member
    exact sound.described other ((kept other).mp member).1
  · intro other member
    obtain ⟨before, apart⟩ := (kept other).mp member
    rw [checked, if_neg apart, library]
    exact sound.compiled other before
  · intro other missing
    rw [checked]
    split
    · rfl
    · rename_i apart
      apply sound.unregistered
      intro member
      obtain ⟨entry, before, rfl⟩ := List.mem_map.mp member
      exact missing (List.mem_map_of_mem ((kept entry).mpr ⟨before, apart⟩))

theorem Sound.step (sound : registry.Sound)
    (made : registry.change change = .ok (changed, event)) : changed.Sound := by
  rcases change_ok made with ⟨plugin, argument, told, -, -, accepted⟩ |
    ⟨id, told, -, -, accepted⟩ | ⟨ids, told, -, -, accepted⟩ | ⟨-, -, subscriptions, rfl⟩
  · exact sound.register accepted
  · exact sound.unregister accepted
  · obtain ⟨allowed, -, -, rfl⟩ := setAllowlist_ok accepted
    exact ⟨sound.distinct, sound.named, sound.described, sound.compiled, sound.unregistered⟩
  · exact ⟨sound.distinct, sound.named, sound.described, sound.compiled, sound.unregistered⟩

/-! ### History -/

/-- A registry that comes about from a new one by changes, one after another. -/
inductive Reached : List Change → Registry → Prop where
  | new (library : Schema.Library) : Reached [] (new library)
  | change {changes : List Change} {registry changed : Registry} {change : Change}
      {event : Option Event} (reached : Reached changes registry)
      (made : registry.change change = .ok (changed, event)) :
      Reached (changes ++ [change]) changed

theorem Reached.sound (reached : Reached changes registry) : registry.Sound := by
  induction reached with
  | new library => exact sound_new library
  | change _ made sound => exact sound.step made

end Registry

namespace Change

/-- What a change adds to a registry that accepts it. -/
def registration? : Change → Option Registration
  | .register plugin argument =>
      match plugin.id with
      | .str id =>
          match Registry.metadataFor id plugin argument with
          | .ok metadata => some ⟨id, plugin, metadata⟩
          | .error _ => none
      | _ => none
  | _ => none

def takesBack (id : String) : Change → Bool
  | .unregister (.str name) => name = id
  | _ => false

end Change

/-- The registrations that nothing takes back later, in the order they were made. -/
def standing : List Change → List Registration
  | [] => []
  | change :: later =>
      (change.registration?.filter fun registration =>
        !later.any (Change.takesBack registration.id)).toList ++ standing later

theorem standing_append (changes : List Change) (change : Change) :
    standing (changes ++ [change]) =
      (standing changes).filter (fun registration => !change.takesBack registration.id) ++
        change.registration?.toList := by
  induction changes with
  | nil => cases added : change.registration? <;> simp [standing, added, Option.filter]
  | cons first later induction =>
      rw [List.cons_append, standing, standing, induction, List.filter_append, List.append_assoc]
      congr 1
      cases first.registration? with
      | none => rfl
      | some registration =>
          cases gone : later.any (Change.takesBack registration.id) <;>
            cases last : change.takesBack registration.id <;>
              simp [Option.filter, List.any_append, gone, last]

theorem standing_append_of_keeps (changes : List Change) {change : Change}
    (keeps : ∀ id, change.takesBack id = false) :
    standing (changes ++ [change]) = standing changes ++ change.registration?.toList := by
  rw [standing_append, List.filter_eq_self.mpr]
  intro registration _
  rw [keeps, Bool.not_false]

theorem mem_standing {before after : List Change} {change : Change} {registration : Registration}
    (added : change.registration? = some registration)
    (stays : after.any (Change.takesBack registration.id) = false) :
    registration ∈ standing (before ++ change :: after) := by
  induction before with
  | nil => simp [standing, added, Option.filter, stays]
  | cons first before induction =>
      rw [List.cons_append, standing]
      exact List.mem_append_right _ induction

namespace Registry

variable {registry changed : Registry} {changes : List Change} {event : Option Event}

theorem Reached.registrations (reached : Reached changes registry) :
    registry.registrations = standing changes := by
  induction reached with
  | new library => rfl
  | @change changes registry changed change event _ made induction =>
      rcases change_ok made with ⟨plugin, argument, told, rfl, -, accepted⟩ |
        ⟨id, told, rfl, -, accepted⟩ | ⟨ids, told, rfl, -, accepted⟩ |
        ⟨subscribes, -, subscriptions, rfl⟩
      · obtain ⟨name, metadata, compiled, named, -, -, described, -, -, same⟩ :=
          register_ok accepted
        have added : Change.registration? (.register plugin argument) =
            some ⟨name, plugin, metadata⟩ := by
          simp only [Change.registration?, named, described]
        rw [standing_append_of_keeps changes fun _ => rfl, added, same, induction]
        rfl
      · obtain ⟨name, registration, rfl, -, -, -, same⟩ := unregister_ok accepted
        rw [standing_append, same, ← induction]
        simp [Change.takesBack, Change.registration?, eq_comm]
      · obtain ⟨allowed, -, -, rfl⟩ := setAllowlist_ok accepted
        rw [standing_append_of_keeps changes fun _ => rfl]
        exact induction.trans (List.append_nil _).symm
      · rcases subscribes with ⟨subscription, rfl⟩ | ⟨subscription, rfl⟩ <;>
          exact induction.trans
            ((standing_append_of_keeps changes fun _ => rfl).trans (List.append_nil _)).symm

/-- Between two registrations under one id the first is taken back. -/
theorem Reached.takenBack (reached : Reached changes registry) {before after : List Change}
    {first second : Change} {early late : Registration}
    (whole : changes = before ++ first :: after) (added : first.registration? = some early)
    (member : second ∈ after) (addedToo : second.registration? = some late)
    (same : late.id = early.id) : after.any (Change.takesBack early.id) = true := by
  induction reached generalizing before after with
  | new library => simp at whole
  | @change changes registry changed last event reached made induction =>
      rcases List.eq_nil_or_concat after with rfl | ⟨middle, final, rfl⟩
      · exact absurd member List.not_mem_nil
      · have split : changes = before ++ first :: middle ∧ last = final := by
          have aligned : changes ++ [last] = (before ++ first :: middle) ++ [final] := by
            rw [whole]
            simp
          exact ⟨List.append_inj_left' aligned rfl,
            List.singleton_inj.mp (List.append_inj_right' aligned rfl)⟩
        obtain ⟨rfl, rfl⟩ := split
        rw [List.concat_eq_append, List.mem_append, List.mem_singleton] at member
        rw [List.concat_eq_append, List.any_append, Bool.or_eq_true]
        left
        rcases member with between | rfl
        · exact induction rfl between
        · cases stays : middle.any (Change.takesBack early.id) with
          | true => rfl
          | false =>
              have stands : early ∈ registry.registrations := by
                rw [reached.registrations]
                exact mem_standing added stays
              obtain ⟨plugin, argument, told, rfl, -, accepted⟩ | ⟨id, told, rfl, -, -⟩ |
                ⟨ids, told, rfl, -, -⟩ | ⟨⟨subscription, rfl⟩ | ⟨subscription, rfl⟩, -⟩ :=
                  change_ok made
              case inl =>
                obtain ⟨name, metadata, compiled, named, -, new, described, -⟩ :=
                  register_ok accepted
                simp only [Change.registration?, named, described, Option.some.injEq] at addedToo
                subst addedToo
                have listed : early.id ∈ registry.types := List.mem_map_of_mem stands
                exact absurd listed (same ▸ find?_eq_none_iff.mp new)
              all_goals simp [Change.registration?] at addedToo

/-! ### Registries and their history -/

/-- There is a validator under an id when a plugin is registered under it whose schema counts. -/
theorem Sound.isSome_validator?_iff (sound : registry.Sound) (id : String) :
    (registry.validator? id).isSome ↔
      ∃ registration, registry.find? id = some registration ∧
        registration.plugin.schema.truthy := by
  constructor
  · intro present
    cases found : registry.find? id with
    | none =>
        rw [sound.unregistered id (find?_eq_none_iff.mp found)] at present
        cases present
    | some registration =>
        obtain ⟨member, rfl⟩ := find?_eq_some found
        rw [compile_ok (sound.compiled registration member)] at present
        exact ⟨registration, rfl, present⟩
  · rintro ⟨registration, found, truthy⟩
    obtain ⟨member, rfl⟩ := find?_eq_some found
    rw [compile_ok (sound.compiled registration member)]
    exact truthy

/-- It is what the schema of that very plugin is compiled to. -/
theorem Sound.compile_of_validator? (sound : registry.Sound) {id : String}
    {validator : Validator} (present : registry.validator? id = some validator) :
    ∃ registration, registry.find? id = some registration ∧
      compile registry.library id registration.plugin.schema = .ok (some validator) := by
  obtain ⟨registration, found, -⟩ :=
    (sound.isSome_validator?_iff id).mp (Option.isSome_of_eq_some present)
  obtain ⟨member, rfl⟩ := find?_eq_some found
  refine ⟨registration, found, ?_⟩
  rw [sound.compiled registration member, present]

/-- A registry and the changes that led to it. -/
structure Faithful (changes : List Change) (registry : Registry) : Prop where
  registrations : registry.registrations = standing changes
  /-- A registration that stands is the latest under its id. -/
  latest : ∀ {before after : List Change} {first second : Change} {early late : Registration},
    changes = before ++ first :: after → first.registration? = some early →
    second ∈ after → second.registration? = some late → late.id = early.id →
    after.any (Change.takesBack early.id) = true
  distinct : registry.types.Nodup
  named : "" ∉ registry.types
  described : ∀ registration ∈ registry.registrations,
    Metadata.ofDraft registration.metadata.toDraft = .ok registration.metadata ∧
      registration.metadata.name ≠ "" ∧ registration.metadata.category ≠ ""
  validated : ∀ id, (registry.validator? id).isSome ↔
    ∃ registration, registry.find? id = some registration ∧ registration.plugin.schema.truthy
  compiled : ∀ {id : String} {validator : Validator}, registry.validator? id = some validator →
    ∃ registration, registry.find? id = some registration ∧
      compile registry.library id registration.plugin.schema = .ok (some validator)

theorem Reached.faithful (reached : Reached changes registry) : Faithful changes registry where
  registrations := reached.registrations
  latest whole added member addedToo same := reached.takenBack whole added member addedToo same
  distinct := reached.sound.distinct
  named := reached.sound.named
  described registration member :=
    have passes := reached.sound.described registration member
    ⟨passes, (Metadata.ofDraft_ok_iff.mp passes).2⟩
  validated := reached.sound.isSome_validator?_iff
  compiled present := reached.sound.compile_of_validator? present

end Registry

end PageComposer
