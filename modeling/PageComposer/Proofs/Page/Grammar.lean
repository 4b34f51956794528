import PageComposer.Page
import PageComposer.Proofs.Text.Surrogates
import PageComposer.Proofs.Tree

/-!
# The grammar of nodes and pages

`Node.Grammar` and `Page.Grammar` say which values are nodes and pages without
reading anything.  A value that follows the grammar is one that the readers accept,
and the second reading of a page's root never fails: a reading with more room accepts
whatever one with less room accepts.
-/

namespace PageComposer

namespace Node

/-- Keys of assigned characters can be read. -/
theorem hasUnreadableKey_of_known {known : List String} {fields : Fields} (reading : Reading)
    (assigned : (known.all fun key => key.toList.all fun char => char.toNat < 0x40000) = true)
    (each : ∀ key ∈ Fields.keys fields, key ∈ known) :
    hasUnreadableKey reading fields = false := by
  simp only [List.all_eq_true, decide_eq_true_eq] at assigned
  simp only [hasUnreadableKey, List.any_eq_false, Bool.not_eq_true]
  intro entry member
  exact Text.holdsSurrogate_of_assigned reading.standIns
    (assigned entry.1 (each entry.1 (List.mem_map_of_mem member)))

theorem hasUnreadableKey_of_node {fields : Fields} (reading : Reading)
    (known : ∀ key ∈ Fields.keys fields, key ∈ keys) :
    hasUnreadableKey reading fields = false :=
  hasUnreadableKey_of_known reading (by decide) known

/-- A value that is a node under a reading: an object with no entries but the four known
ones, each as it has to be, and nodes below it. -/
inductive Grammar : Reading → Value → Prop where
  | node {reading inside : Reading} {fields params : Fields} {type : String}
      (room : reading.inside? = some inside)
      (hasType : Fields.get? fields "type" = some (.str type))
      (proper : type ≠ "") (readable : reading.isBroken type = false)
      (keyText : ∀ value, Fields.get? fields "key" = some value → ∃ text, value = .str text)
      (hasParams : Fields.get? fields "params" = some (.object params))
      (childrenList : ∀ value, Fields.get? fields "children" = some value →
        ∃ items, value = .list items)
      (known : ∀ key ∈ Fields.keys fields, key ∈ keys)
      (below : ∀ child ∈ (Value.object fields).childNodes, Grammar inside child) :
      Grammar reading (.object fields)

theorem unknownKeys_isEmpty_iff {known : List String} {fields : Fields} :
    (unknownKeys known fields).isEmpty = true ↔ ∀ key ∈ Fields.keys fields, key ∈ known := by
  simp [unknownKeys, List.filter_eq_nil_iff]

theorem isSome_optionalText?_iff {fields : Fields} {key : String} :
    (optionalText? fields key).isSome ↔
      ∀ value, Fields.get? fields key = some value → ∃ text, value = .str text := by
  unfold optionalText?
  split
  · rename_i absent
    simp [absent]
  · rename_i text found
    simp [found]
  · rename_i value notText found
    simp only [Option.isSome_none, Bool.false_eq_true, false_iff]
    intro texts
    obtain ⟨text, rfl⟩ := texts value found
    exact notText text rfl

theorem optionalTextViolations_eq_nil_iff {fields : Fields} {key : String} :
    optionalTextViolations fields key = [] ↔
      ∀ value, Fields.get? fields key = some value → ∃ text, value = .str text := by
  unfold optionalTextViolations
  cases found : Fields.get? fields key with
  | none => simp
  | some value => cases value <;> simp [textViolations]

theorem isSome_itemsOf?_iff {reading : Reading} {items : List Value} :
    (itemsOf? reading items).isSome ↔ ∀ item ∈ items, (ofValue? reading item).isSome := by
  induction items with
  | nil => simp [itemsOf?]
  | cons item rest induction =>
      simp only [itemsOf?, List.forall_mem_cons, ← induction]
      cases ofValue? reading item <;> cases itemsOf? reading rest <;> simp

theorem childrenOf?_eq (reading : Reading) (fields : Fields) :
    childrenOf? reading fields =
      match Fields.get? fields "children" with
      | none => some none
      | some (.list items) => (itemsOf? reading items).map some
      | some _ => none := by
  induction fields with
  | nil => rfl
  | cons entry rest induction =>
      obtain ⟨key, value⟩ := entry
      by_cases same : key = "children" <;> cases value <;>
        simp [childrenOf?, Fields.get?, same, induction]

theorem isSome_childrenOf?_iff {reading : Reading} {fields : Fields} :
    (childrenOf? reading fields).isSome ↔
      (∀ value, Fields.get? fields "children" = some value → ∃ items, value = .list items) ∧
        ∀ child ∈ (Value.object fields).childNodes, (ofValue? reading child).isSome := by
  rw [childrenOf?_eq]
  cases found : Fields.get? fields "children" with
  | none => simp [Value.childNodes, found]
  | some value => cases value <;> simp [Value.childNodes, found, isSome_itemsOf?_iff]

/-- The reader accepts the nodes of the grammar and nothing else. -/
theorem isSome_ofValue?_iff {reading : Reading} {value : Value} :
    (ofValue? reading value).isSome ↔ Grammar reading value := by
  induction value using Value.treeInduction generalizing reading with
  | node tree below =>
      cases tree with
      | object fields =>
          constructor
          · intro accepted
            obtain ⟨node, accepted⟩ := Option.isSome_iff_exists.mp accepted
            simp only [ofValue?, Option.bind_eq_bind, Option.bind_eq_some_iff] at accepted
            obtain ⟨inside, room, named, hasType, accepted⟩ := accepted
            split at accepted
            · rename_i type
              simp only [Option.bind_eq_some_iff] at accepted
              obtain ⟨key, keyText, given, hasParams, accepted⟩ := accepted
              split at accepted
              · rename_i params
                simp only [Option.bind_eq_some_iff] at accepted
                obtain ⟨children, childrenList, accepted⟩ := accepted
                obtain ⟨shaped, nested⟩ := isSome_childrenOf?_iff.mp
                  (Option.isSome_iff_exists.mpr ⟨children, childrenList⟩)
                simp only [Option.ite_none_left_eq_some, Bool.not_eq_true, Bool.or_eq_false_iff,
                  Bool.not_eq_false'] at accepted
                obtain ⟨⟨⟨proper, readable⟩, known⟩, -⟩ := accepted
                exact .node room hasType (by simpa using proper) readable
                  (isSome_optionalText?_iff.mp (Option.isSome_iff_exists.mpr ⟨key, keyText⟩))
                  hasParams shaped (unknownKeys_isEmpty_iff.mp known)
                  fun child member => (below child member).mp (nested child member)
              · simp at accepted
            · simp at accepted
          · intro grammar
            obtain ⟨room, hasType, proper, readable, keyText, hasParams, shaped, known,
              nested⟩ := grammar
            obtain ⟨key, hasKey⟩ :=
              Option.isSome_iff_exists.mp (isSome_optionalText?_iff.mpr keyText)
            obtain ⟨children, hasChildren⟩ :=
              Option.isSome_iff_exists.mp (isSome_childrenOf?_iff.mpr
                ⟨shaped, fun child member => (below child member).mpr (nested child member)⟩)
            have known := unknownKeys_isEmpty_iff.mpr known
            simp [ofValue?, room, hasType, hasKey, hasParams, hasChildren, proper, readable,
              known]
      | _ =>
          constructor
          · intro accepted
            simp [ofValue?] at accepted
          · intro grammar
            cases grammar

theorem validateBy_ok_iff {reading : Reading} {value : Value} :
    (∃ node, validateBy reading value = .ok node) ↔ Grammar reading value := by
  rw [← isSome_ofValue?_iff, validateBy]
  cases ofValue? reading value <;> simp

/-- A reading with more room than another, and the same stand-ins. -/
structure Reading.Roomier (wide narrow : Reading) : Prop where
  standIns : wide.standIns = narrow.standIns
  room : ∀ limit, wide.room = some limit → ∃ less ≤ limit, narrow.room = some less

namespace Reading.Roomier

theorem inside {wide narrow below : Reading} (roomier : wide.Roomier narrow)
    (room : narrow.inside? = some below) :
    ∃ inner, wide.inside? = some inner ∧ inner.Roomier below := by
  obtain ⟨wideRoom, wideStandIns⟩ := wide
  obtain ⟨narrowRoom, narrowStandIns⟩ := narrow
  obtain ⟨standIns, more⟩ := roomier
  simp only at standIns more
  subst standIns
  cases wideRoom with
  | none =>
      refine ⟨_, rfl, ?_, by simp⟩
      cases narrowRoom with
      | none =>
          simp only [inside?, Option.some.injEq] at room
          simp [← room]
      | some limit =>
          cases limit <;> simp only [inside?, Option.some.injEq, reduceCtorEq] at room
          simp [← room]
  | some limit =>
      obtain ⟨less, atMost, rfl⟩ := more limit rfl
      cases less with
      | zero => simp [inside?] at room
      | succ less =>
          obtain ⟨limit, rfl⟩ : ∃ smaller, limit = smaller + 1 := ⟨limit - 1, by omega⟩
          simp only [inside?, Option.some.injEq] at room
          exact ⟨_, rfl, by simp [← room], by simpa [← room] using by omega⟩

theorem isBroken {wide narrow : Reading} (roomier : wide.Roomier narrow) (text : String) :
    wide.isBroken text = narrow.isBroken text := by
  simp [Reading.isBroken, roomier.standIns]

end Reading.Roomier

/-- What is a node with little room is a node with more. -/
theorem Grammar.mono {wide narrow : Reading} {value : Value} (grammar : Grammar narrow value)
    (roomier : wide.Roomier narrow) : Grammar wide value := by
  induction grammar generalizing wide with
  | node room hasType proper readable keyText hasParams childrenList known _below induction =>
      obtain ⟨inner, innerRoom, inside⟩ := roomier.inside room
      exact .node innerRoom hasType proper (by rw [roomier.isBroken, readable]) keyText hasParams
        childrenList known fun child member => induction child member inside

end Node

/-- The entries of page metadata that have a meaning are texts. -/
def PageMeta.Grammar (info : Fields) : Prop :=
  ∀ key ∈ keys, ∀ value, Fields.get? info key = some value → ∃ text, value = .str text

/-- The reader of metadata accepts what follows the grammar and has no broken keys. -/
theorem PageMeta.isSome_ofValue?_iff {reading : Node.Reading} {info : Fields} :
    (ofValue? reading (.object info)).isSome ↔
      Node.hasUnreadableKey reading info = false ∧ Grammar info := by
  have slug : (Node.optionalText? info "slug").isSome ↔ _ := Node.isSome_optionalText?_iff
  have title : (Node.optionalText? info "title").isSome ↔ _ := Node.isSome_optionalText?_iff
  have locale : (Node.optionalText? info "locale").isSome ↔ _ := Node.isSome_optionalText?_iff
  simp only [Grammar, keys, List.forall_mem_cons, List.not_mem_nil, false_implies, implies_true,
    and_true, ← slug, ← title, ← locale]
  simp only [ofValue?]
  cases Node.hasUnreadableKey reading info <;> cases Node.optionalText? info "slug" <;>
    cases Node.optionalText? info "title" <;> cases Node.optionalText? info "locale" <;> simp

namespace Page

/-- A value that is a page: a version, metadata and a root node, and nothing else. -/
inductive Grammar (reading : Node.Reading) : Value → Prop where
  | page {fields info : Fields} {version : String} {root : Value}
      (hasVersion : Fields.get? fields "version" = some (.str version))
      (accepted : Version.accepts version = true)
      (hasMeta : Fields.get? fields "meta" = some (.object info))
      (readable : Node.hasUnreadableKey reading info = false)
      (infoGrammar : PageMeta.Grammar info)
      (hasRoot : Fields.get? fields "root" = some root)
      (rootGrammar : Node.Grammar reading root)
      (known : ∀ key ∈ Fields.keys fields, key ∈ keys) :
      Grammar reading (.object fields)

theorem isSome_ofValue?_iff {reading : Node.Reading} {value : Value} :
    (ofValue? reading value).isSome ↔ Grammar reading value := by
  cases value with
  | object fields =>
      constructor
      · intro accepted
        obtain ⟨page, accepted⟩ := Option.isSome_iff_exists.mp accepted
        simp only [ofValue?, Option.bind_eq_bind, Option.bind_eq_some_iff] at accepted
        obtain ⟨named, hasVersion, accepted⟩ := accepted
        split at accepted
        · simp only [Option.bind_eq_some_iff] at accepted
          obtain ⟨info, ⟨given, hasMeta, infoRead⟩, root, ⟨tree, hasRoot, rootRead⟩,
            accepted⟩ := accepted
          simp only [Option.ite_none_left_eq_some, Bool.not_eq_true, Bool.or_eq_false_iff,
            Bool.not_eq_false'] at accepted
          obtain ⟨⟨version, known⟩, -⟩ := accepted
          cases given with
          | object entries =>
              obtain ⟨readable, texts⟩ := PageMeta.isSome_ofValue?_iff.mp
                (Option.isSome_iff_exists.mpr ⟨info, infoRead⟩)
              exact .page hasVersion version hasMeta readable texts hasRoot
                (Node.isSome_ofValue?_iff.mp (Option.isSome_iff_exists.mpr ⟨root, rootRead⟩))
                (Node.unknownKeys_isEmpty_iff.mp known)
          | _ => simp [PageMeta.ofValue?] at infoRead
        · simp at accepted
      · intro grammar
        obtain ⟨hasVersion, version, hasMeta, readable, texts, hasRoot, rootGrammar, known⟩ :=
          grammar
        obtain ⟨info, infoRead⟩ := Option.isSome_iff_exists.mp
          (PageMeta.isSome_ofValue?_iff.mpr ⟨readable, texts⟩)
        obtain ⟨root, rootRead⟩ := Option.isSome_iff_exists.mp
          (Node.isSome_ofValue?_iff.mpr rootGrammar)
        have known := Node.unknownKeys_isEmpty_iff.mpr known
        simp [ofValue?, hasVersion, hasMeta, hasRoot, infoRead, rootRead, version, known]
  | _ =>
      constructor
      · intro accepted
        simp [ofValue?] at accepted
      · intro grammar
        cases grammar

theorem hasUnreadableKey_of_page {fields : Fields} (reading : Node.Reading)
    (known : ∀ key ∈ Fields.keys fields, key ∈ keys) :
    Node.hasUnreadableKey reading fields = false :=
  Node.hasUnreadableKey_of_known reading (by decide) known

/-- The reading of what stands inside of a page, which is a record itself. -/
abbrev insideReadingWith (standIns : Option Text.StandIns) : Node.Reading := ⟨some 254, standIns⟩

/-- The reading of what stands inside of a page where nothing stands in for anything. -/
abbrev insideReading : Node.Reading := insideReadingWith none

theorem insideReadingWith_eq (standIns : Option Text.StandIns) :
    { Node.Reading.ofDocumentsWith standIns with
      room := (Node.Reading.ofDocumentsWith standIns).room.map (· - 1) } =
      insideReadingWith standIns :=
  rfl

/-- The check of pages accepts the pages of the grammar and nothing else: where the
first reading accepts the root, the second one does so too. -/
theorem validateWith_ok_iff {standIns : Option Text.StandIns} {value : Value} :
    (∃ page, validateBy (.ofDocumentsWith standIns) value = .ok page) ↔
      Grammar (insideReadingWith standIns) value := by
  rw [← isSome_ofValue?_iff]
  simp only [validateBy, insideReadingWith_eq]
  cases read : ofValue? (insideReadingWith standIns) value with
  | none => simp
  | some page =>
      simp only [Option.isSome_some, iff_true]
      obtain ⟨hasVersion, version, hasMeta, readable, texts, hasRoot, rootGrammar, known⟩ :=
        isSome_ofValue?_iff.mp (Option.isSome_iff_exists.mpr ⟨page, read⟩)
      have wider : (Node.Reading.ofDocumentsWith standIns).Roomier (insideReadingWith standIns) :=
        ⟨rfl, fun limit same => ⟨254, by cases same; decide, rfl⟩⟩
      obtain ⟨root, rootRead⟩ := Option.isSome_iff_exists.mp
        (Node.isSome_ofValue?_iff.mpr (rootGrammar.mono wider))
      simp only [rootOf, Fields.getD, hasRoot, Option.getD_some, Node.validateBy, rootRead]
      split <;> exact ⟨page, rfl⟩

theorem validate_ok_iff {value : Value} :
    (∃ page, validate value = .ok page) ↔ Grammar insideReading value :=
  validateWith_ok_iff

/-- A value that is no page is refused with everything that is wrong with it. -/
theorem validateWith_eq_error {standIns : Option Text.StandIns} {value : Value}
    (refused : ¬ Grammar (insideReadingWith standIns) value) :
    validateBy (.ofDocumentsWith standIns) value =
      .error (invalid (violations (insideReadingWith standIns) value)) := by
  rw [← isSome_ofValue?_iff] at refused
  simp only [Bool.not_eq_true, Option.isSome_eq_false_iff, Option.isNone_iff_eq_none] at refused
  simp [validateBy, insideReadingWith_eq, refused]

end Page

end PageComposer
