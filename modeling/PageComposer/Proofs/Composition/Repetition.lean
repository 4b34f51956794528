import PageComposer.Proofs.Composition.Outcomes

/-!
# Composing again

A tree is clear when pruning has nothing left to do in it.  Whatever pruning leaves of a tree
is clear, however irregular the tree was, and a clear tree stays as it is under every check,
for no flag is asked.  So a composed page is composed to itself: its root is clear, and the
locale and the bucket depend on the request and the settings alone.
-/

namespace PageComposer

namespace Flag

/-- A tree whose nodes have params that tie them to no flag, and no children but lists of
such nodes. -/
inductive Clear : Value → Prop where
  | node {fields params : Fields}
      (hasParams : Fields.get? fields "params" = some (.object params))
      (untied : param ∉ Fields.keys params)
      (childrenList : ∀ value, Fields.get? fields "children" = some value →
        ∃ items, value = .list items)
      (below : ∀ child ∈ (Value.object fields).childNodes, Clear child) :
      Clear (.object fields)

/-! ### Clear trees stay as they are -/

theorem keep_of_clear {fields params : Fields} {children : Option (List Value)}
    (hasParams : Fields.get? fields "params" = some (.object params))
    (untied : param ∉ Fields.keys params)
    (listed : ∀ items, children = some items →
      Fields.get? fields "children" = some (.list items)) :
    keep fields children = .object fields := by
  have sameParams : Fields.insert fields "params"
      (.object (Fields.erase (paramsOf fields) param)) = fields := by
    apply Fields.insert_of_get?
    rw [paramsOf, hasParams]
    simp [Fields.erase_of_not_mem untied]
  cases children with
  | none => simp [keep, sameParams]
  | some items => simp [keep, sameParams, Fields.insert_of_get? (listed items rfl)]

theorem pruneItems_of_fixed {check : Check} {items : List Value}
    (fixed : ∀ item ∈ items, prune check item = .ok (some item, [])) :
    pruneItems check items = .ok (items, []) := by
  induction items with
  | nil => rfl
  | cons item rest induction =>
      have later := induction fun other member => fixed other (by simp [member])
      exact pruneItems_cons_iff.mpr ⟨_, _, _, _, fixed item (by simp), later, rfl, rfl⟩

/-- No check whatever changes a clear tree, and none is made. -/
theorem Clear.prune_eq {tree : Value} (clear : Clear tree) (check : Check) :
    prune check tree = .ok (some tree, []) := by
  induction clear with
  | @node fields params hasParams untied childrenList below induction =>
      have given : fields ≠ [] := by
        rintro rfl
        simp [Fields.get?] at hasParams
      have free : gate check (paramsOf fields) = .ok (true, []) := by
        apply gate_of_none
        rw [paramsOf, hasParams]
        simp [Fields.getD, Fields.get?_eq_none_iff.mpr untied, ofValue?, Value.truthy]
      cases found : Fields.get? fields "children" with
      | none =>
          have same := @keep_of_clear fields params none hasParams untied (by simp)
          exact prune_object_some_iff.mpr
            ⟨given, _, _, _, free, pruneChildren_of_none found, same.symm, rfl⟩
      | some value =>
          obtain ⟨items, rfl⟩ := childrenList value found
          rw [Value.childNodes_of_list found] at induction
          have stay := pruneChildren_of_list found (pruneItems_of_fixed induction)
          have same := @keep_of_clear fields params (some items) hasParams untied
            (by simp [found])
          exact prune_object_some_iff.mpr ⟨given, _, _, _, free, stay, same.symm, rfl⟩

/-! ### What pruning leaves is clear -/

theorem prune_clear {check : Check} {tree kept : Value} {asked : List String}
    (pruned : prune check tree = .ok (some kept, asked)) : Clear kept := by
  induction tree using Value.treeInduction generalizing kept asked with
  | node tree induction =>
      cases tree with
      | object fields =>
          obtain ⟨-, own, children, later, -, below, rfl, -⟩ := prune_object_some_iff.mp pruned
          have nested : ∀ child ∈ (keep fields children).childNodes, Clear child := by
            intro child member
            obtain ⟨source, inSource, _, answered⟩ := mem_childNodes_keep below member
            exact induction source inSource answered
          obtain ⟨entries, shape, hasParams, list, -⟩ := keep_spec fields children
          rw [shape] at nested ⊢
          refine .node hasParams (by simp [Fields.keys_erase]) ?_ nested
          intro value found
          rw [list] at found
          cases children with
          | none => simp [get?_children_of_pruneChildren below] at found
          | some items => exact ⟨items, by simpa [eq_comm] using found⟩
      | _ =>
          simp only [prune] at pruned
          split at pruned <;> simp at pruned

/-- What pruning leaves of any tree, be it nothing, is left as it is by every check after
it. -/
theorem prune_again {check : Check} {tree : Value} {left : Option Value} {asked : List String}
    (pruned : prune check tree = .ok (left, asked)) (other : Check) :
    prune other (left.getD .null) = .ok (left, []) := by
  cases left with
  | none => rfl
  | some kept => exact (prune_clear pruned).prune_eq other

end Flag

/-! ### Pipelines of changes that went through -/

namespace Middleware

theorem exists_of_update_ok {change : Context → Outcome Context} {next : Continuation}
    {before : Context} {journal : List Value} {entered : Nat}
    (ran : ((update change).run next ⟨before, journal, entered⟩).1 = .ok ()) :
    ∃ after, change before = .ok after := by
  rcases changed : change before with fault | after
  · simp [update, run, changed] at ran
  · exact ⟨after, rfl⟩

end Middleware

namespace Pipeline

/-- What is left of a context after changes to it, one after another. -/
def through (changes : List (Context → Outcome Context)) (context : Context) : Outcome Context :=
  changes.foldlM (fun context change => change context) context

theorem turns_of_through {changes : List (Context → Outcome Context)} {before after : Context}
    (changed : through changes before = .ok after) :
    Turns (changes.map .update) before after := by
  induction changes generalizing before with
  | nil =>
      cases changed
      exact .nil
  | cons change rest induction =>
      rcases first : change before with fault | between
      · simp [through, List.foldlM, first, bind, Except.bind] at changed
      · simp only [through, List.foldlM, first, bind, Except.bind] at changed
        exact .cons (Middleware.turns_update first) (induction changed)

theorem exists_through_of_dispatch_ok {changes : List (Context → Outcome Context)} {before : Context}
    {journal : List Value} {entered : Nat}
    (ran : (dispatch .none entered (changes.map .update) ⟨before, journal, entered⟩).1 = .ok ()) :
    ∃ after, through changes before = .ok after := by
  induction changes generalizing before entered with
  | nil => exact ⟨before, rfl⟩
  | cons change rest induction =>
      simp only [List.map_cons, dispatch, Nat.lt_irrefl, if_false] at ran
      obtain ⟨between, first⟩ := Middleware.exists_of_update_ok ran
      rw [Middleware.turns_update first] at ran
      obtain ⟨after, others⟩ := induction ran
      exact ⟨after, by simpa [through, List.foldlM, first, bind, Except.bind] using others⟩

/-- A run of changes is good when all of them are, and leaves what they leave. -/
theorem run_updates_ok_iff {changes : List (Context → Outcome Context)}
    {before after : Context} {journal : List Value} :
    (∃ passage : Passage, run ⟨changes.map .update⟩ .none before journal = (.ok (), passage) ∧
        passage.context = after) ↔ through changes before = .ok after := by
  constructor
  · rintro ⟨passage, ran, rfl⟩
    have good : (run ⟨changes.map .update⟩ .none before journal).1 = .ok () := by rw [ran]
    obtain ⟨after, changed⟩ := exists_through_of_dispatch_ok good
    rw [run_of_turns (turns_of_through changed), Continuation.none] at ran
    obtain rfl := (Prod.mk.inj ran).2
    exact changed
  · intro changed
    exact ⟨_, run_of_turns (turns_of_through changed), rfl⟩

end Pipeline

namespace Composition

variable {standIns : Option Text.StandIns}

/-- What the middlewares of a site make of a context. -/
def prepare (standIns : Option Text.StandIns) (settings : Settings) (context : Context) :
    Outcome Context :=
  Pipeline.through [locate settings, allot standIns settings, pruneTree] context

theorem prepare_ok_iff {settings : Settings} {start after : Context} :
    prepare standIns settings start = .ok after ↔
      ∃ located bucketed, locate settings start = .ok located ∧
        allot standIns settings located = .ok bucketed ∧ pruneTree bucketed = .ok after := by
  simp only [prepare, Pipeline.through, List.foldlM, bind, Except.bind]
  rcases locate settings start with fault | located
  · simp
  · rcases allotted : allot standIns settings located with fault | bucketed
    · simp [allotted]
    · rcases pruned : pruneTree bucketed with fault | last <;>
        simp [allotted, pruned, pure, Except.pure]

theorem run_pipeline_ok_iff {settings : Settings} {start after : Context} :
    (∃ passage : Passage, (pipeline standIns settings).run .none start [] = (.ok (), passage) ∧
        passage.context = after) ↔ prepare standIns settings start = .ok after :=
  @Pipeline.run_updates_ok_iff [locate settings, allot standIns settings, pruneTree] start after []

theorem compose_ok_iff {settings : Settings} {page composed : Value} {start : Context} :
    compose standIns page start (pipeline standIns settings) = .ok composed ↔
      ∃ after, prepare standIns settings start = .ok after ∧ merge page after = .ok composed ∧
        ∃ parsed, Page.validateBy (.ofDocumentsWith standIns) composed = .ok parsed := by
  constructor
  · intro answered
    unfold compose at answered
    rcases ran : (pipeline standIns settings).run .none start [] with ⟨fault | ⟨⟩, passage⟩
    · simp [ran, bind, Except.bind] at answered
    · have prepared := run_pipeline_ok_iff.mp ⟨passage, ran, rfl⟩
      rcases merged : merge page passage.context with fault | written
      · simp [ran, merged, bind, Except.bind] at answered
      · rcases valid : Page.validateBy (.ofDocumentsWith standIns) written with problem | parsed
        · simp [ran, merged, valid, bind, Except.bind] at answered
        · simp only [ran, merged, valid, bind, Except.bind, pure, Except.pure,
            Except.ok.injEq] at answered
          subst answered
          exact ⟨_, prepared, merged, parsed, valid⟩
  · rintro ⟨after, prepared, merged, parsed, valid⟩
    obtain ⟨passage, ran, rfl⟩ := run_pipeline_ok_iff.mpr prepared
    simp [compose, ran, merged, valid, bind, Except.bind, pure, Except.pure]

theorem locate_ok_iff {settings : Settings} {context located : Context} :
    locate settings context = .ok located ↔
      ∃ request locale, context.request = .ok request ∧
        Locale.resolve request (.str settings.defaultLocale) = .ok locale ∧
        located = { context with locale := locale } := by
  rcases asked : context.request with fault | request
  · simp [locate, asked, bind, Except.bind]
  · rcases found : Locale.resolve request (.str settings.defaultLocale) with fault | locale <;>
      simp [locate, asked, found, bind, Except.bind, pure, Except.pure, eq_comm (b := located)]

theorem allot_ok_iff {settings : Settings} {context bucketed : Context} :
    allot standIns settings context = .ok bucketed ↔
      ∃ name label, Bucket.identity context (.str "user-id") = .ok name ∧
        Bucket.assign standIns name (.str settings.bucketSalt) (.list (labels settings)) =
          .ok label ∧
        bucketed = { context with
          bucket := .object [("bucket", label), ("buckets", .list (labels settings))] } := by
  rcases named : Bucket.identity context (.str "user-id") with fault | name
  · simp [allot, named, bind, Except.bind]
  · rcases assigned : Bucket.assign standIns name (.str settings.bucketSalt)
      (.list (labels settings)) with fault | label <;>
      simp [allot, named, assigned, bind, Except.bind, pure, Except.pure,
        eq_comm (b := bucketed)]

theorem pruneTree_ok_iff {context after : Context} :
    pruneTree context = .ok after ↔
      context.tree.truthy = false ∧ after = context ∨
        context.tree.truthy = true ∧ ∃ left asked,
          Flag.prune (Middleware.FlagSource.context.check context) context.tree =
            .ok (left, asked) ∧
          after = { context with tree := left.getD .null } := by
  cases given : context.tree.truthy with
  | false => simp [pruneTree, given, eq_comm]
  | true =>
      rcases pruned : Flag.prune (Middleware.FlagSource.context.check context) context.tree with
        fault | ⟨left, asked⟩ <;>
        simp [pruneTree, given, pruned, bind, Except.bind, pure, Except.pure,
          eq_comm (b := after)]

/-! ### The second time -/

/-- Nothing but the tree is left of the first time in the context of the second. -/
theorem prepare_again {settings : Settings} {start after : Context}
    (done : prepare standIns settings start = .ok after) :
    prepare standIns settings { start with tree := after.tree } = .ok after := by
  obtain ⟨located, bucketed, first, second, third⟩ := prepare_ok_iff.mp done
  obtain ⟨request, locale, asked, resolved, rfl⟩ := locate_ok_iff.mp first
  obtain ⟨name, label, named, assigned, rfl⟩ := allot_ok_iff.mp second
  -- Neither the locale nor the bucket depends on the tree, so both come out as before.
  refine prepare_ok_iff.mpr ⟨_, _, locate_ok_iff.mpr ⟨request, locale, asked, resolved, rfl⟩,
    allot_ok_iff.mpr ⟨name, label, named, assigned, rfl⟩, ?_⟩
  rw [pruneTree_ok_iff]
  rcases pruneTree_ok_iff.mp third with ⟨empty, rfl⟩ | ⟨-, left, names, pruned, rfl⟩
  · exact .inl ⟨empty, rfl⟩
  · cases given : (left.getD .null).truthy with
    | false => exact .inl ⟨rfl, rfl⟩
    | true => exact .inr ⟨rfl, left, [], Flag.prune_again pruned _, rfl⟩

theorem context_again {page composed root : Value} {request : Request} {start : Context}
    (opened : context page request = .ok start) (hasRoot : composed.lookup "root" = .ok root) :
    context composed request = .ok { start with tree := root } := by
  simp only [context, bind, Except.bind] at opened ⊢
  rcases flags : flagsOfHeader (request.header "x-flags" .null) with fault | names
  · simp [flags] at opened
  · rcases found : page.lookup "root" with fault | tree
    · simp [flags, found] at opened
    · simp only [flags, found, hasRoot] at opened ⊢
      cases opened
      rfl

theorem merge_ok_iff {page composed : Value} {context : Context} :
    merge page context = .ok composed ↔
      ∃ fields info label, page = .object fields ∧
        (Fields.get? fields "meta").getD (.object []) = .object info ∧
        Composition.label context.bucket = .ok label ∧
        composed = .object (dressed fields info context.tree context.locale label) := by
  cases page with
  | object fields =>
      rcases found : (Fields.get? fields "meta").getD (.object []) with
        _ | _ | _ | _ | _ | _ | info <;>
        rcases chosen : label context.bucket with fault | label <;>
        simp [merge, spread, found, chosen, dressed, bind, Except.bind, pure, Except.pure,
          eq_comm (b := composed)]
  | _ => simp [merge, spread, bind, Except.bind]

/-- Dressed with the same things once more, a page is as it was. -/
theorem dressed_again {fields info : Fields} {root locale label : Value}
    (hasRoot : Fields.get? fields "root" = some root)
    (hasMeta : Fields.get? fields "meta" = some (.object info))
    (hasLocale : Fields.get? info "locale" = some locale)
    (hasLabel : Fields.get? info "ab" = some label) :
    dressed fields info root locale label = fields := by
  rw [dressed, Fields.insert_of_get? hasRoot, Fields.insert_of_get? hasLocale,
    Fields.insert_of_get? hasLabel, Fields.insert_of_get? hasMeta]

theorem merge_again {page composed : Value} {context : Context}
    (merged : merge page context = .ok composed) :
    composed.lookup "root" = .ok context.tree ∧ merge composed context = .ok composed := by
  obtain ⟨fields, info, label, rfl, hasMeta, chosen, rfl⟩ := merge_ok_iff.mp merged
  let written := Fields.insert (Fields.insert info "locale" context.locale) "ab" label
  have newMeta := get?_dressed_meta fields info context.tree context.locale label
  have newRoot := get?_dressed_root fields info context.tree context.locale label
  have hasLocale : Fields.get? written "locale" = some context.locale := by
    simp [written, Fields.get?_insert]
  have hasLabel : Fields.get? written "ab" = some label := by
    simp [written, Fields.get?_insert]
  constructor
  · simp [Value.lookup, Value.entries, Fields.getD, newRoot, bind, Except.bind, pure,
      Except.pure]
  · exact merge_ok_iff.mpr ⟨_, written, label, rfl, by rw [newMeta]; rfl, chosen, by
      rw [dressed_again newRoot newMeta hasLocale hasLabel]⟩

/-- What composing answers with is composed to itself. -/
theorem answer_again {settings : Settings} {page composed : Value} {request : Request}
    (answered : answer standIns settings page request = .ok composed) :
    answer standIns settings composed request = .ok composed := by
  unfold answer at answered ⊢
  rcases opened : context page request with fault | start
  · simp [opened, bind, Except.bind] at answered
  · simp only [opened, bind, Except.bind] at answered
    obtain ⟨after, prepared, merged, valid⟩ := compose_ok_iff.mp answered
    obtain ⟨hasRoot, mergedAgain⟩ := merge_again merged
    simp only [context_again opened hasRoot, bind, Except.bind]
    exact compose_ok_iff.mpr ⟨after, prepare_again prepared, mergedAgain, valid⟩

/-- A second pass over what a first one has left, be it a pass of pruning with any other check
or the whole composition, changes nothing. -/
theorem second_pass_changes_nothing :
    (∀ (check other : Flag.Check) (tree : Value) (left : Option Value) (asked : List String),
      Flag.prune check tree = .ok (left, asked) →
        Flag.prune other (left.getD .null) = .ok (left, [])) ∧
      ∀ (standIns : Option Text.StandIns) (settings : Settings) (page composed : Value)
        (request : Request),
        answer standIns settings page request = .ok composed →
          answer standIns settings composed request = .ok composed := by
  constructor
  · intro check other tree left asked pruned
    exact Flag.prune_again pruned other
  · intro standIns settings page composed request answered
    exact answer_again answered

/-- A tree with params and children of all kinds. -/
def irregularTree : Value :=
  .object [("params", .list [.int 3]), ("children", .list [
    .int 0,
    .object [("params", .object [("featureFlag", "beta"), ("width", .null)])],
    .object [("children", .null), ("params", .object [("featureFlag", .list [.str "beta"])])],
    .object [("children", ""), ("style", .object [("featureFlag", "beta")])]])]

def prunedIrregularTree : Value :=
  .object [("params", .object []), ("children", .list [
    .object [("params", .object [("width", .null)])],
    .object [("children", .list []), ("params", .object [])],
    .object [("children", .list []), ("style", .object [("featureFlag", "beta")]),
      ("params", .object [])]])]

def oneBucket : Settings := { bareSettings with buckets := ["A"] }

def composedGatedPage : Value :=
  .object [("version", "1.0"),
    ("meta", .object [("slug", "home"), ("views", .int 3), ("locale", "fr"), ("ab", "A")]),
    ("root", .object [("type", "Container"), ("params", .object []),
      ("children", .list [
        .object [("type", "TextBlock"), ("params", .object [("text", "hello")])]])])]

theorem answer_gatedPage : answer none oneBucket gatedPage betaRequest = .ok composedGatedPage := by
  have texts : betaRequest.HoldsTexts :=
    ⟨by simp [betaRequest], ⟨[], rfl, by simp⟩, ⟨[], rfl, by simp⟩⟩
  have asks : Flag.prune (fun name => .ok ((flagsOn betaRequest).contains name))
      (Page.rootOf gatedPage) = .ok (some (Page.rootOf composedGatedPage), ["beta", "beta"]) := rfl
  have locale : Locale.resolve betaRequest (.str oneBucket.defaultLocale) = .ok (.str "fr") := rfl
  obtain ⟨fields, shape, hasMeta, hasRoot, outcome⟩ : ∃ fields, gatedPage = .object fields ∧
      Fields.get? fields "meta" = some (.object [("slug", "home"), ("views", .int 3)]) ∧
      Fields.get? fields "root" = some (Page.rootOf gatedPage) ∧
      composedGatedPage = .object (dressed fields [("slug", "home"), ("views", .int 3)]
        (Page.rootOf composedGatedPage) "fr" "A") := ⟨_, rfl, rfl, rfl, rfl⟩
  obtain ⟨text, resolved, label, member, answered⟩ :=
    @answer_eq none oneBucket _ _ _ _ _ _ texts rfl hasMeta hasRoot rfl asks
  obtain rfl : "fr" = text := by simpa [locale] using resolved
  obtain rfl : label = .str "A" := by simpa [labels, oneBucket] using member
  rw [shape]
  exact answered composedGatedPage outcome

theorem second_pass_changes_nothing_gatedPage :
    (Flag.prune (fun _ => .ok true) irregularTree = .ok (some prunedIrregularTree, ["beta"]) ∧
      Flag.prune (fun _ => .ok false) prunedIrregularTree = .ok (some prunedIrregularTree, [])) ∧
    answer none oneBucket gatedPage betaRequest = .ok composedGatedPage ∧
      answer none oneBucket composedGatedPage betaRequest = .ok composedGatedPage := by
  have pruned : Flag.prune (fun _ => .ok true) irregularTree =
      .ok (some prunedIrregularTree, ["beta"]) := rfl
  obtain ⟨pruning, composing⟩ := second_pass_changes_nothing
  exact ⟨⟨pruned, pruning _ _ _ _ _ pruned⟩, answer_gatedPage,
    composing _ _ _ _ _ answer_gatedPage⟩

end Composition

end PageComposer
