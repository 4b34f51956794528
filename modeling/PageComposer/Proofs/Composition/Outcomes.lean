import PageComposer.Composition
import PageComposer.Proofs.Flag.Pruning
import PageComposer.Proofs.Page.Versions

/-!
# What composing a page can come to

A valid page composed for a request of texts comes to one of three ends.  If the text that
the bucket is drawn for holds a surrogate on its own, there is no digest to draw it from, and
this fault ends all.  Otherwise either the root of the page is tied to a flag whose state it
does not want: then nothing is left under `root`, and that is the one thing wrong with the
composed page.  Or the composed page is valid and is the page that `Composed` describes.  No
setting and no header can make the composition fail in another way.
-/

namespace PageComposer

theorem Fields.exists_text_of_get? {fields : Fields} {key : String} {value : Value}
    (texts : ∀ entry ∈ fields, ∃ text, entry.2 = .str text)
    (found : get? fields key = some value) : ∃ text, value = .str text :=
  texts (key, value) (mem_of_get? found)

namespace Request

/-- A request whose headers, query and cookies hold nothing but texts. -/
structure HoldsTexts (request : Request) : Prop where
  headers : ∀ entry ∈ request.headers, ∃ text, entry.2 = .str text
  query : ∃ entries, request.query = .object entries ∧
    ∀ entry ∈ entries, ∃ text, entry.2 = .str text
  cookies : ∃ entries, request.cookies = .object entries ∧
    ∀ entry ∈ entries, ∃ text, entry.2 = .str text

theorem HoldsTexts.header {request : Request} (texts : request.HoldsTexts) (name : String) :
    request.header name .null = .null ∨
      ∃ text, request.header name .null = .str text := by
  unfold Request.header
  cases found : Fields.get? request.headers (Text.lower name) with
  | none => exact .inl rfl
  | some value =>
      obtain ⟨text, rfl⟩ := Fields.exists_text_of_get? texts.headers found
      exact .inr ⟨text, rfl⟩

end Request

/-! ### Pipelines of changes -/

/-- A middleware turns one context into another and continues. -/
def Middleware.Turns (middleware : Middleware) (before after : Context) : Prop :=
  ∀ next journal entered,
    middleware.run next ⟨before, journal, entered⟩ = next ⟨after, journal, entered⟩

theorem Middleware.turns_update {change : Context → Outcome Context} {before after : Context}
    (answer : change before = .ok after) : (update change).Turns before after := by
  intro next journal entered
  simp only [update, run, answer, nextThen]
  rcases next ⟨after, journal, entered⟩ with ⟨fault | ⟨⟩, passed⟩ <;> rfl

theorem Middleware.run_update_error {change : Context → Outcome Context} {before : Context}
    {fault : Fault} (answer : change before = .error fault) (next : Continuation)
    (journal : List Value) (entered : Nat) :
    (update change).run next ⟨before, journal, entered⟩ =
      (.error fault, ⟨before, journal, entered⟩) := by
  simp only [update, run, answer]

/-- The middlewares of a stack turn one context into another, each from where the one
before it left off. -/
inductive Pipeline.Turns : List Middleware → Context → Context → Prop where
  | nil {context : Context} : Turns [] context context
  | cons {middleware : Middleware} {rest : List Middleware} {before between after : Context}
      (first : middleware.Turns before between) (others : Turns rest between after) :
      Turns (middleware :: rest) before after

theorem Pipeline.dispatch_of_turns {outer : Continuation} {stack : List Middleware}
    {before after : Context} {journal : List Value} {entered : Nat}
    (turns : Turns stack before after) :
    dispatch outer entered stack ⟨before, journal, entered⟩ =
      outer ⟨after, journal, entered + stack.length + 1⟩ := by
  induction turns generalizing entered with
  | nil => simp [dispatch]
  | @cons middleware rest before between after first others induction =>
      have reached : entered + 1 + rest.length + 1 = entered + (rest.length + 1) + 1 := by omega
      simp only [dispatch, Nat.lt_irrefl, if_false, List.length_cons]
      rw [first, induction, reached]

theorem Pipeline.run_of_turns {pipeline : Pipeline} {outer : Continuation}
    {before after : Context} {journal : List Value}
    (turns : Turns pipeline.stack before after) :
    pipeline.run outer before journal = outer ⟨after, journal, pipeline.length + 1⟩ := by
  rw [run, dispatch_of_turns turns, Nat.zero_add, length]

/-! ### The three changes -/

theorem Locale.resolve_ok {request : Request} (texts : request.HoldsTexts) (default : String) :
    ∃ text, resolve request (.str default) = .ok (.str text) := by
  obtain ⟨entries, query, -⟩ := texts.query
  simp only [resolve, query, Value.entries, bind, Except.bind]
  split
  · rename_i text found
    cases empty : text.isEmpty
    · exact ⟨text, by simp [pure, Except.pure, found]⟩
    · exact ⟨default, by simp [pure, Except.pure]⟩
  · exact ⟨default, rfl⟩

namespace Bucket

theorem drawn_ok {standIns : Option Text.StandIns} {text : String}
    (sound : Text.holdsSurrogate standIns text = false) :
    ∃ word, drawn standIns text = .ok word := by
  obtain ⟨sent, encoded⟩ := Text.encoded_ok_iff.mpr sound
  exact ⟨_, by rw [drawn, encoded]⟩

theorem choose_mem {standIns : Option Text.StandIns} {labels : List Value}
    (given : labels ≠ []) {name : String} {salt : Value}
    (sound : Text.holdsSurrogate standIns (name ++ ":" ++ salt.display) = false) :
    ∃ label ∈ labels, choose standIns name salt labels = .ok label := by
  have positive : (0 : Int) < labels.length := by
    have := List.length_pos_iff.mpr given
    omega
  obtain ⟨word, drawn⟩ := drawn_ok sound
  let index := Int.fmod word labels.length
  have atLeast : 0 ≤ index := Int.fmod_nonneg_of_pos _ positive
  have below : index < labels.length := Int.fmod_lt_of_pos _ positive
  have inRange : index.toNat < labels.length := by omega
  refine ⟨labels[index.toNat], List.getElem_mem inRange, ?_⟩
  have reduced : reduce standIns (name ++ ":" ++ salt.display) labels.length = .ok index := by
    simp [reduce, remainder, drawn, given, index, bind, Except.bind]
  simp [choose, reduced, bind, Except.bind, pure, Except.pure, inRange]

theorem assign_list {standIns : Option Text.StandIns} {labels : List Value}
    (given : labels ≠ []) (name : String) (salt : Value) :
    assign standIns name salt (.list labels) = choose standIns name salt labels := by
  simp [assign, Bucket.labels, Value.members, given, bind, Except.bind, pure, Except.pure]

theorem choose_error {standIns : Option Text.StandIns} {name : String} {salt : Value}
    {run : Text.SurrogateRun}
    (broken : Text.encoded standIns (name ++ ":" ++ salt.display) = .error run)
    (labels : List Value) :
    choose standIns name salt labels = .error (.misuse (.unsendable run)) := by
  simp [choose, reduce, drawn, broken, bind, Except.bind]

end Bucket

namespace Composition

def flagsOn (request : Request) : List String :=
  match request.header "x-flags" .null with
  | .str header => flagNames header
  | _ => []

def labels (settings : Settings) : List Value :=
  if settings.buckets.isEmpty then Bucket.defaultLabels else settings.buckets.map .str

theorem labels_ne_nil (settings : Settings) : labels settings ≠ [] := by
  unfold labels
  split
  · simp [Bucket.defaultLabels]
  · rename_i given
    simpa using given

theorem flagNames_empty : flagNames "" = [] := by decide

theorem flagsOfHeader_eq {request : Request} (texts : request.HoldsTexts) :
    flagsOfHeader (request.header "x-flags" .null) =
      .ok ((flagsOn request).map fun name => (name, .bool true)) := by
  rcases texts.header "x-flags" with absent | ⟨header, found⟩
  · simp [flagsOfHeader, flagsOn, absent, Value.truthy]
  · simp only [flagsOfHeader, flagsOn, found, Value.truthy, Bool.not_not, Value.text]
    split
    · rename_i empty
      simp [String.isEmpty_iff.mp empty, flagNames_empty]
    · rfl

theorem truthy_getD_flags (names : List String) (name : String) :
    (Fields.getD (names.map fun name => (name, .bool true)) name).truthy =
      names.contains name := by
  induction names with
  | nil => rfl
  | cons first rest induction =>
      simp only [Fields.getD] at induction
      by_cases same : first = name
      · simp [Fields.getD, Fields.get?, same, Value.truthy]
      · simp [Fields.getD, Fields.get?, same, Ne.symm same, induction]

theorem check_context {context : Context} {names : List String}
    (flags : context.flags = .object (names.map fun name => (name, .bool true))) :
    Middleware.FlagSource.check .context context = fun name => .ok (names.contains name) := by
  funext name
  have given : context.flags.orElse (.object []) = context.flags := by
    rw [flags]
    unfold Value.orElse
    split
    · rfl
    · rename_i empty
      simpa [Value.truthy] using empty
  rw [Middleware.FlagSource.check, given, flags, ← truthy_getD_flags]
  rfl

/-- Who a request is from: the user of its header, else its own, else the one of its cookie;
all others go by one name. -/
def visitor (request : Request) : String :=
  (([request.header "x-user-id" .null, request.userId,
      (request.cookies.lookup "abid").toOption.getD .null].find? Value.truthy).map
    Value.display).getD "anon"

/-- The text that the bucket for a request is drawn for. -/
def bucketText (settings : Settings) (request : Request) : String :=
  visitor request ++ ":" ++ settings.bucketSalt

theorem identity_eq {context : Context} {request : Request}
    (given : context.request? = some request) (texts : request.HoldsTexts)
    (user : context.userId = request.header "x-user-id" .null) :
    Bucket.identity context (.str "user-id") = .ok (visitor request) := by
  obtain ⟨entries, cookies, -⟩ := texts.cookies
  have known : context.request = .ok request := by simp [Context.request, given]
  have cookie : request.cookies.lookup "abid" = .ok (Fields.getD entries "abid") := by
    simp [cookies, Value.lookup, Value.entries, bind, Except.bind, pure, Except.pure]
  simp only [Bucket.identity, visitor, known, user, cookie, Except.map, Except.toOption,
    Option.getD_some, bind, Except.bind, pure, Except.pure, List.find?_cons, List.find?_nil,
    ne_eq, not_true_eq_false, if_false]
  cases header : (request.header "x-user-id" .null).truthy <;>
    cases own : request.userId.truthy <;>
      cases kept : (Fields.getD entries "abid").truthy <;> simp

/-- Fill in the locale of a context. -/
def locate (settings : Settings) (context : Context) : Outcome Context := do
  let locale ← Locale.resolve (← context.request) (.str settings.defaultLocale)
  return { context with locale := locale }

/-- Fill in the bucket of a context. -/
def allot (standIns : Option Text.StandIns) (settings : Settings) (context : Context) :
    Outcome Context := do
  let identity ← Bucket.identity context (.str "user-id")
  let bucket ← Bucket.assign standIns identity (.str settings.bucketSalt)
    (.list (labels settings))
  return { context with
    bucket := .object [("bucket", bucket), ("buckets", .list (labels settings))] }

/-- Prune the tree of a context. -/
def pruneTree (context : Context) : Outcome Context :=
  if context.tree.truthy then do
    let (tree, _) ← Flag.prune (Middleware.FlagSource.context.check context) context.tree
    return { context with tree := tree.getD .null }
  else .ok context

theorem pipeline_eq (standIns : Option Text.StandIns) (settings : Settings) :
    pipeline standIns settings =
      ⟨[.update (locate settings), .update (allot standIns settings), .update pruneTree]⟩ :=
  rfl

/-- A context that is ready for a request of texts, with nothing done yet. -/
structure Ready (context : Context) (request : Request) : Prop where
  given : context.request? = some request
  texts : request.HoldsTexts
  user : context.userId = request.header "x-user-id" .null

namespace Ready

variable {standIns : Option Text.StandIns} {context : Context} {request : Request}

theorem locate_ok (ready : Ready context request) (settings : Settings) :
    ∃ text, Locale.resolve request (.str settings.defaultLocale) = .ok (.str text) ∧
      locate settings context = .ok { context with locale := .str text } := by
  obtain ⟨text, resolved⟩ := Locale.resolve_ok ready.texts settings.defaultLocale
  have known : context.request = .ok request := by simp [Context.request, ready.given]
  exact ⟨text, resolved, by simp [locate, known, resolved, bind, Except.bind, pure, Except.pure]⟩

/-- The bucket of a context that is ready is chosen for its request. -/
theorem allot_eq (ready : Ready context request) (settings : Settings) :
    allot standIns settings context =
      (Bucket.choose standIns (visitor request) (.str settings.bucketSalt)
        (labels settings)).map fun label =>
          { context with
            bucket := .object [("bucket", label), ("buckets", .list (labels settings))] } := by
  rw [allot, identity_eq ready.given ready.texts ready.user]
  simp only [bind, Except.bind, Bucket.assign_list (labels_ne_nil settings)]
  cases Bucket.choose standIns (visitor request) (.str settings.bucketSalt) (labels settings) <;>
    rfl

theorem allot_ok (ready : Ready context request) (settings : Settings)
    (sound : Text.holdsSurrogate standIns (bucketText settings request) = false) :
    ∃ label ∈ labels settings, allot standIns settings context = .ok { context with
      bucket := .object [("bucket", label), ("buckets", .list (labels settings))] } := by
  obtain ⟨label, member, chosen⟩ := Bucket.choose_mem (labels_ne_nil settings)
    (show Text.holdsSurrogate standIns
      (visitor request ++ ":" ++ (Value.str settings.bucketSalt).display) = false from sound)
  exact ⟨label, member, by rw [ready.allot_eq, chosen]; rfl⟩

theorem allot_error (ready : Ready context request) (settings : Settings)
    {run : Text.SurrogateRun}
    (broken : Text.encoded standIns (bucketText settings request) = .error run) :
    allot standIns settings context = .error (.misuse (.unsendable run)) := by
  rw [ready.allot_eq, Bucket.choose_error broken]
  rfl

end Ready

theorem pruneTree_ok {context : Context} {names : List String} {kept : Option Value}
    {asked : List String}
    (flags : context.flags = .object (names.map fun name => (name, .bool true)))
    (tree : context.tree.truthy = true)
    (pruned : Flag.prune (fun name => .ok (names.contains name)) context.tree =
      .ok (kept, asked)) :
    pruneTree context = .ok { context with tree := kept.getD .null } := by
  rw [pruneTree, check_context flags, pruned, if_pos tree]
  rfl

/-- What the three middlewares make of a context. -/
theorem pipeline_turns {standIns : Option Text.StandIns} (settings : Settings)
    {context : Context} {request : Request} {names : List String} {kept : Option Value}
    {asked : List String} (ready : Ready context request)
    (sound : Text.holdsSurrogate standIns (bucketText settings request) = false)
    (flags : context.flags = .object (names.map fun name => (name, .bool true)))
    (tree : context.tree.truthy = true)
    (pruned : Flag.prune (fun name => .ok (names.contains name)) context.tree =
      .ok (kept, asked)) :
    ∃ text, Locale.resolve request (.str settings.defaultLocale) = .ok (.str text) ∧
      ∃ label ∈ labels settings, Pipeline.Turns (pipeline standIns settings).stack context
        { context with
          locale := .str text
          bucket := .object [("bucket", label), ("buckets", .list (labels settings))]
          tree := kept.getD .null } := by
  obtain ⟨text, resolved, located⟩ := ready.locate_ok settings
  have onward : Ready { context with locale := .str text } request :=
    ⟨ready.given, ready.texts, ready.user⟩
  obtain ⟨label, member, allotted⟩ := onward.allot_ok settings sound
  exact ⟨text, resolved, label, member,
    .cons (Middleware.turns_update located) (.cons (Middleware.turns_update allotted)
      (.cons (Middleware.turns_update (pruneTree_ok flags tree pruned)) .nil))⟩

/-- Without a bucket the pipeline comes to its end behind the locale. -/
theorem pipeline_error {standIns : Option Text.StandIns} (settings : Settings)
    {context : Context} {request : Request} {run : Text.SurrogateRun}
    (ready : Ready context request)
    (broken : Text.encoded standIns (bucketText settings request) = .error run) :
    ((pipeline standIns settings).run .none context []).1 =
      .error (.misuse (.unsendable run)) := by
  obtain ⟨text, -, located⟩ := ready.locate_ok settings
  have onward : Ready { context with locale := .str text } request :=
    ⟨ready.given, ready.texts, ready.user⟩
  rw [pipeline_eq, Pipeline.run, Pipeline.dispatch, if_neg (Nat.lt_irrefl 0)]
  simp only
  rw [Middleware.turns_update located, Pipeline.dispatch, if_neg (Nat.lt_irrefl 1)]
  simp only
  rw [Middleware.run_update_error (onward.allot_error settings broken)]

/-! ### The composed page -/

/-- A page with another root, and with a locale and a bucket in its metadata. -/
def dressed (fields info : Fields) (root locale label : Value) : Fields :=
  Fields.insert (Fields.insert fields "root" root) "meta"
    (.object (Fields.insert (Fields.insert info "locale" locale) "ab" label))

theorem merge_ok {fields info : Fields} {context : Context} {label labels : Value}
    (hasMeta : Fields.get? fields "meta" = some (.object info))
    (bucket : context.bucket = .object [("bucket", label), ("buckets", labels)]) :
    merge (.object fields) context =
      .ok (.object (dressed fields info context.tree context.locale label)) := by
  simp [merge, spread, hasMeta, Composition.label, bucket, Value.truthy, Fields.get?, dressed,
    bind, Except.bind, pure, Except.pure]

theorem get?_dressed_meta (fields info : Fields) (root locale label : Value) :
    Fields.get? (dressed fields info root locale label) "meta" =
      some (.object (Fields.insert (Fields.insert info "locale" locale) "ab" label)) := by
  simp [dressed, Fields.get?_insert]

theorem get?_dressed_root (fields info : Fields) (root locale label : Value) :
    Fields.get? (dressed fields info root locale label) "root" = some root := by
  simp [dressed, Fields.get?_insert]

theorem get?_dressed_version (fields info : Fields) (root locale label : Value) :
    Fields.get? (dressed fields info root locale label) "version" =
      Fields.get? fields "version" := by
  simp [dressed, Fields.get?_insert]

theorem infoGrammar_dressed {info : Fields} (label : Value) (text : String)
    (grammar : PageMeta.Grammar info) :
    PageMeta.Grammar (Fields.insert (Fields.insert info "locale" (.str text)) "ab" label) := by
  intro key member value found
  simp only [Fields.get?_insert] at found
  split at found
  · rename_i same
    simp [← same, PageMeta.keys] at member
  · split at found
    · exact ⟨text, by simpa [eq_comm] using found⟩
    · exact grammar key member value found

theorem known_dressed {fields : Fields} (info : Fields) (root locale label : Value)
    (known : ∀ key ∈ Fields.keys fields, key ∈ Page.keys) :
    ∀ key ∈ Fields.keys (dressed fields info root locale label), key ∈ Page.keys := by
  intro key member
  rcases Fields.mem_keys_insert.mp member with rfl | member
  · decide
  · rcases Fields.mem_keys_insert.mp member with rfl | member
    · decide
    · exact known key member

/-- The metadata of a dressed page have no key that cannot be read, since the new ones can. -/
theorem readable_dressed {reading : Node.Reading} {info : Fields} (locale label : Value)
    (readable : Node.hasUnreadableKey reading info = false) :
    Node.hasUnreadableKey reading
      (Fields.insert (Fields.insert info "locale" locale) "ab" label) = false := by
  have plain (key : String) (known : key ∈ ["locale", "ab"]) : reading.isBroken key = false :=
    Text.holdsSurrogate_of_assigned reading.standIns (by
      have assigned : (["locale", "ab"].all fun key =>
          key.toList.all fun char => char.toNat < 0x40000) = true := by decide
      simp only [List.all_eq_true, decide_eq_true_eq] at assigned
      exact assigned key known)
  have readable : ∀ key ∈ Fields.keys info, reading.isBroken key = false := by
    simpa [Node.hasUnreadableKey, Fields.keys] using readable
  have every : ∀ key ∈ Fields.keys (Fields.insert (Fields.insert info "locale" locale) "ab" label),
      reading.isBroken key = false := by
    intro key member
    rcases Fields.mem_keys_insert.mp member with rfl | member
    · exact plain "ab" (by simp)
    · rcases Fields.mem_keys_insert.mp member with rfl | member
      · exact plain "locale" (by simp)
      · exact readable key member
  simpa [Node.hasUnreadableKey, Fields.keys] using every

/-- A dressed page is a page exactly when its root is a node. -/
theorem dressed_grammar_iff {reading : Node.Reading} {fields info : Fields} {root : Value}
    (label : Value) (text : String) (grammar : Page.Grammar reading (.object fields))
    (hasMeta : Fields.get? fields "meta" = some (.object info)) :
    Page.Grammar reading (.object (dressed fields info root (.str text) label)) ↔
      Node.Grammar reading root := by
  obtain @⟨_, given, version, _, hasVersion, accepted, found, readable, infoGrammar, -, -, known⟩ :=
    grammar
  obtain rfl : given = info := by simpa [hasMeta] using found.symm
  constructor
  · intro composed
    obtain ⟨-, -, -, -, -, hasRoot, rootGrammar, -⟩ := composed
    rw [get?_dressed_root, Option.some.injEq] at hasRoot
    rwa [hasRoot]
  · intro rootGrammar
    exact .page (by rw [get?_dressed_version, hasVersion]) accepted (get?_dressed_meta ..)
      (readable_dressed _ label readable) (infoGrammar_dressed label text infoGrammar)
      (get?_dressed_root ..) rootGrammar
      (known_dressed _ root (.str text) label known)

/-- What the check of pages says where nothing is left under `root`. -/
def withoutRoot : Problem :=
  Page.invalid [Violation.under "root" (.here (.notRecord "Node"))]

/-- A page that was dressed with nothing for a root has that one thing wrong with it. -/
theorem validate_dressed_null {standIns : Option Text.StandIns} {fields info : Fields}
    {label : Value} {text : String}
    (grammar : Page.Grammar (Page.insideReadingWith standIns) (.object fields))
    (hasMeta : Fields.get? fields "meta" = some (.object info)) :
    Page.validateBy (.ofDocumentsWith standIns)
        (.object (dressed fields info .null (.str text) label)) = .error withoutRoot := by
  have notNode : ¬ Node.Grammar (Page.insideReadingWith standIns) .null := nofun
  rw [Page.validateWith_eq_error (by rwa [dressed_grammar_iff label text grammar hasMeta])]
  obtain @⟨_, given, version, _, hasVersion, accepted, found, readable, infoGrammar, -, -, known⟩ :=
    grammar
  obtain rfl : given = info := by simpa [hasMeta] using found.symm
  have infoGrammar := infoGrammar_dressed label text infoGrammar
  have slug := Node.optionalTextViolations_eq_nil_iff.mpr (infoGrammar "slug" (by decide))
  have title := Node.optionalTextViolations_eq_nil_iff.mpr (infoGrammar "title" (by decide))
  have locale := Node.optionalTextViolations_eq_nil_iff.mpr (infoGrammar "locale" (by decide))
  have readableInfo := readable_dressed (.str text) label readable
  have known := known_dressed given .null (.str text) label known
  have readable := Page.hasUnreadableKey_of_page (Page.insideReadingWith standIns) known
  have unknown := List.isEmpty_iff.mp (Node.unknownKeys_isEmpty_iff.mpr known)
  have notBroken : (Page.insideReadingWith standIns).isBroken version = false :=
    Version.isBroken_of_accepts accepted
  simp [withoutRoot, Page.violations, readable, readableInfo, Page.requiredViolations,
    get?_dressed_version, get?_dressed_meta, get?_dressed_root, hasVersion,
    Page.versionViolations, notBroken, accepted, PageMeta.violations, slug, title, locale,
    Node.violations, Node.Reading.inside?, unknown]

/-! ### All ends -/

/-- Compose a page for a request, with these characters for surrogates in both. -/
def answer (standIns : Option Text.StandIns) (settings : Settings) (page : Value)
    (request : Request) : Outcome Value := do
  compose standIns page (← context page request) (pipeline standIns settings)

/-- The root of a page is tied to a flag whose state it does not want. -/
def RootRefused (page : Value) (request : Request) : Prop :=
  ∃ flag, Flag.ofNode? (Page.rootOf page) = some flag ∧
    flag.admits ((flagsOn request).contains flag.name) = false

def entryOf? (value : Value) (key : String) : Option Value :=
  match value with
  | .object fields => Fields.get? fields key
  | _ => none

def infoOf (page : Value) : Value := (entryOf? page "meta").getD .null

/-- What a composed page is, in the terms of the page and of the request. -/
structure Composed (standIns : Option Text.StandIns) (settings : Settings) (page : Value)
    (request : Request) (composed : Value) : Prop where
  accepted : ∃ parsed, Page.validateBy (.ofDocumentsWith standIns) composed = .ok parsed
  version : entryOf? composed "version" = entryOf? page "version"
  locale : ∃ text, Locale.resolve request (.str settings.defaultLocale) = .ok (.str text) ∧
    entryOf? (infoOf composed) "locale" = some (.str text)
  bucket : ∃ label ∈ labels settings, entryOf? (infoOf composed) "ab" = some label
  others : ∀ key, key ≠ "locale" → key ≠ "ab" →
    entryOf? (infoOf composed) key = entryOf? (infoOf page) key
  root : ∃ asked, Flag.prune (fun name => .ok ((flagsOn request).contains name))
    (Page.rootOf page) = .ok (some (Page.rootOf composed), asked)
  unflagged : ∀ node ∈ (Page.rootOf composed).nodes, Flag.Unflagged node

def opening (root : Value) (request : Request) : Context :=
  { Context.ofRequest request with
    userId := request.header "x-user-id" .null
    flags := .object ((flagsOn request).map fun name => (name, .bool true))
    tree := root }

theorem context_ok {fields : Fields} {root : Value} {request : Request}
    (texts : request.HoldsTexts) (hasRoot : Fields.get? fields "root" = some root) :
    context (.object fields) request = .ok (opening root request) := by
  simp [context, opening, flagsOfHeader_eq texts, Value.lookup, Value.entries, Fields.getD,
    hasRoot, bind, Except.bind, pure, Except.pure]

theorem ready_opening (root : Value) {request : Request} (texts : request.HoldsTexts) :
    Ready (opening root request) request :=
  ⟨rfl, texts, rfl⟩

/-- The answer is the check's on the page that was dressed with what pruning leaves. -/
theorem answer_eq {standIns : Option Text.StandIns} (settings : Settings) {request : Request}
    {fields info : Fields} {root : Value} {kept : Option Value} {asked : List String}
    (texts : request.HoldsTexts)
    (sound : Text.holdsSurrogate standIns (bucketText settings request) = false)
    (hasMeta : Fields.get? fields "meta" = some (.object info))
    (hasRoot : Fields.get? fields "root" = some root) (given : root.truthy = true)
    (pruned : Flag.prune (fun name => .ok ((flagsOn request).contains name)) root =
      .ok (kept, asked)) :
    ∃ text, Locale.resolve request (.str settings.defaultLocale) = .ok (.str text) ∧
      ∃ label ∈ labels settings, ∀ composed,
        composed = Value.object (dressed fields info (kept.getD .null) (.str text) label) →
        answer standIns settings (.object fields) request =
          match Page.validateBy (.ofDocumentsWith standIns) composed with
          | .ok _ => .ok composed
          | .error problem => .error (.problem problem) := by
  obtain ⟨text, resolved, label, member, turns⟩ :=
    pipeline_turns settings (ready_opening root texts) sound rfl given pruned
  refine ⟨text, resolved, label, member, ?_⟩
  rintro composed rfl
  simp only [answer, context_ok texts hasRoot, compose, bind, Except.bind]
  rw [Pipeline.run_of_turns turns]
  simp only [Continuation.none, pure, Except.pure]
  rewrite [merge_ok hasMeta rfl]
  rfl

theorem answer_error {standIns : Option Text.StandIns} (settings : Settings)
    {request : Request} {fields : Fields} {root : Value} {run : Text.SurrogateRun}
    (texts : request.HoldsTexts) (hasRoot : Fields.get? fields "root" = some root)
    (broken : Text.encoded standIns (bucketText settings request) = .error run) :
    answer standIns settings (.object fields) request = .error (.misuse (.unsendable run)) := by
  have failed := pipeline_error settings (ready_opening root texts) broken
  simp only [answer, context_ok texts hasRoot, compose, bind, Except.bind]
  rw [failed]

/-- A page composed for a request of texts is not composed at all just when a surrogate stands
on its own in the text that its bucket is drawn for.  Otherwise it is refused just when its
root's own flag is against it, or else it is the composed page; there is no fourth way. -/
theorem answer_outcomes (standIns : Option Text.StandIns) (settings : Settings) (page : Value)
    (request : Request)
    (accepted : ∃ parsed, Page.validateBy (.ofDocumentsWith standIns) page = .ok parsed)
    (texts : request.HoldsTexts) :
    (Text.holdsSurrogate standIns (bucketText settings request) = true ∧
      ∃ run, Text.encoded standIns (bucketText settings request) = .error run ∧
        answer standIns settings page request = .error (.misuse (.unsendable run))) ∨
    (Text.holdsSurrogate standIns (bucketText settings request) = false ∧
      ((RootRefused page request ∧
        answer standIns settings page request = .error (.problem withoutRoot)) ∨
      (¬ RootRefused page request ∧
        ∃ composed, answer standIns settings page request = .ok composed ∧
          Composed standIns settings page request composed))) := by
  have grammar := Page.validateWith_ok_iff.mp accepted
  obtain @⟨fields, info, version, root, hasVersion, -, hasMeta, -, -, hasRoot, rootGrammar, -⟩ :=
    id grammar
  cases sound : Text.holdsSurrogate standIns (bucketText settings request) with
  | true =>
      obtain ⟨run, broken⟩ := Text.encoded_eq_error_iff.mpr sound
      exact .inl ⟨rfl, run, broken, answer_error settings texts hasRoot broken⟩
  | false =>
      refine .inr ⟨rfl, ?_⟩
      have given : root.truthy = true := by
        obtain @⟨_, _, entries, _, _, _, hasType, -⟩ := rootGrammar
        cases entries with
        | nil => simp [Fields.get?] at hasType
        | cons entry rest => rfl
      have total : ∀ name, ∃ enabled, (.ok ((flagsOn request).contains name) : Outcome Bool) =
          .ok enabled := fun name => ⟨_, rfl⟩
      obtain ⟨kept, asked, pruned⟩ := Flag.prune_total total rootGrammar
      have rootOf : Page.rootOf (.object fields) = root := by
        simp [Page.rootOf, Fields.getD, hasRoot]
      have refused : RootRefused (.object fields) request ↔ kept = none := by
        rw [Flag.prune_none_iff rootGrammar pruned, RootRefused, rootOf]
        simp
      obtain ⟨text, resolved, label, member, answered⟩ :=
        answer_eq settings texts sound hasMeta hasRoot given pruned
      have answered := answered _ rfl
      -- The composed page is invalid just when pruning has left nothing of the root.
      cases kept with
      | none =>
          rw [Option.getD_none, validate_dressed_null grammar hasMeta] at answered
          exact .inl ⟨refused.mpr rfl, answered⟩
      | some kept =>
          have keptGrammar := Flag.prune_grammar rootGrammar pruned
          have composedGrammar := (dressed_grammar_iff label text grammar hasMeta).mpr keptGrammar
          obtain ⟨parsed, valid⟩ := Page.validateWith_ok_iff.mpr composedGrammar
          rw [Option.getD_some, valid] at answered
          have keptRoot :
              Page.rootOf (.object (dressed fields info kept (.str text) label)) = kept := by
            simp [Page.rootOf, Fields.getD, get?_dressed_root]
          have keptInfo : infoOf (.object (dressed fields info kept (.str text) label)) =
              .object (Fields.insert (Fields.insert info "locale" (.str text)) "ab" label) := by
            simp [infoOf, entryOf?, get?_dressed_meta]
          refine .inr ⟨by simp [refused], _, answered, ?_⟩
          exact {
            accepted := ⟨parsed, valid⟩
            version := by simp [entryOf?, get?_dressed_version]
            locale := ⟨text, resolved, by simp [keptInfo, entryOf?, Fields.get?_insert]⟩
            bucket := ⟨label, member, by simp [keptInfo, entryOf?, Fields.get?_insert]⟩
            others := by
              intro key notLocale notBucket
              rw [keptInfo]
              simp [infoOf, entryOf?, hasMeta, Fields.get?_insert, Ne.symm notLocale,
                Ne.symm notBucket]
            root := ⟨asked, by rw [rootOf, keptRoot, pruned]⟩
            unflagged := by
              rw [keptRoot]
              exact Flag.prune_unflagged pruned }

/-- A page whose root is tied to a flag, and so is one of the nodes below it. -/
def gatedPage : Value :=
  .object [("version", "1.0"), ("meta", .object [("slug", "home"), ("views", .int 3)]),
    ("root", .object [("type", "Container"),
      ("params", .object [("featureFlag", "beta")]),
      ("children", .list [
        .object [("type", "TextBlock"), ("params", .object [("text", "hello")])],
        .object [("type", "TextBlock"), ("params", .object [
          ("featureFlag", .object [("name", "beta"), ("invert", .bool true)])])]])])]

/-- A request that turns one flag on. -/
def betaRequest : Request :=
  ⟨[("x-flags", " beta ,"), ("accept-language", "fr-CA")], .object [], .object [], .null⟩

def bareSettings : Settings :=
  { Settings.default with defaultLocale := "", buckets := [] }

theorem answer_outcomes_gatedPage :
    (∃ parsed, Page.validateBy (.ofDocumentsWith none) gatedPage = .ok parsed) ∧
      betaRequest.HoldsTexts ∧
      ((RootRefused gatedPage betaRequest ∧
        answer none bareSettings gatedPage betaRequest = .error (.problem withoutRoot)) ∨
      (¬ RootRefused gatedPage betaRequest ∧
        ∃ composed, answer none bareSettings gatedPage betaRequest = .ok composed ∧
          Composed none bareSettings gatedPage betaRequest composed)) := by
  have accepted : ∃ parsed, Page.validateBy (.ofDocumentsWith none) gatedPage = .ok parsed :=
    ⟨_, rfl⟩
  have texts : betaRequest.HoldsTexts :=
    ⟨by simp [betaRequest], ⟨[], rfl, by simp⟩, ⟨[], rfl, by simp⟩⟩
  rcases answer_outcomes none bareSettings gatedPage betaRequest accepted texts with
    ⟨broken, -⟩ | ⟨-, outcome⟩
  · cases broken
  · exact ⟨accepted, texts, outcome⟩

/-- A request whose cookie holds nothing but a surrogate. -/
def brokenRequest : Request :=
  let broken := String.singleton (Text.StandIns.earliest.charOf 0xDC80)
  ⟨[], .object [], .object [("abid", .str broken)], .null⟩

/-- A page that is valid, composed for a request of texts, can fail in a way of its own: no
bucket is drawn for a surrogate, and neither does the page come out nor is it refused. -/
theorem answer_brokenRequest :
    (∃ parsed, Page.validateBy (.ofDocumentsWith (some .earliest)) gatedPage = .ok parsed) ∧
      brokenRequest.HoldsTexts ∧
      answer (some .earliest) bareSettings gatedPage brokenRequest =
        .error (.misuse (.unsendable ⟨0, 1, 0xDC80⟩)) := by
  refine ⟨⟨_, rfl⟩, ⟨by simp [brokenRequest], ⟨[], rfl, by simp⟩, ⟨_, rfl, by simp⟩⟩, ?_⟩
  rfl

end Composition

end PageComposer
