import Mathlib.Data.List.Dedup
import Mathlib.Data.Set.List
import Mathlib.Tactic.Push
import Mathlib.Tactic.ByContra
import PageComposer.Proofs.Renderer.Allowlists

/-!
# Walks that see several allowlists

A tree is rendered while the allowlist is replaced, by the plugins themselves or by others
where plugins wait.  `oneAllowlist_iff` says for which allowlists it is sure that one of
them permits the types of all nodes of a rendered tree.  Among others a tree can be built
of which each node is permitted when it is entered, and no allowlist permits all.
-/

namespace PageComposer.Renderer

/-- An allowlist as a registry keeps it: each id once. -/
def kept (given : Option (List String)) : Allowlist := given.map List.eraseDups

theorem permits_kept_iff {given : Option (List String)} {type : Value} :
    Permits (kept given) type ↔ Permits given type := by
  cases given with
  | none => simp [kept, Permits]
  | some ids => simp [kept, Permits]

/-- A tree that is rendered to a text while given allowlists are put in force, one after
another, and nothing else is changed. -/
structure Run (first : Option (List String)) (later : List (Option (List String)))
    (tree : Value) where
  context : RenderContext
  session : Session
  after : Session
  text : String
  trace : List Moment
  answered : Program.answer (render .silent tree context) session = (.ok text, after)
  traced : Walks .silent context (forestOf tree) session trace (.ok text) after
  begins : allowlistOf session = kept first
  swapped : changes trace = later.map kept
  onlySwaps : OnlySwaps session.schedule
  distinct : session.hub.registry.types.Nodup
  proper : "" ∉ session.hub.registry.types

/-! ### A tree that is permitted piece by piece -/

/-- A plugin that puts the allowlist in its params in force, if there is one. -/
def swapBody (args : RenderArgs) : RenderBody :=
  match args.params with
  | .object params =>
      match Fields.get? params "allowlist" with
      | some ids => .setAllowlist ids fun _ => .give (.text "")
      | none => .give (.text "")
  | _ => .give (.text "")

/-- A plugin that takes any params, under an id. -/
def plain (id : String) (body : RenderArgs → RenderBody) : Registration :=
  ⟨id, ⟨.str id, .null, none, some body⟩, ⟨id, "general", .null, .null, .null, [], []⟩⟩

def plainSession (registrations : List Registration) (given : Option (List String))
    (schedule : List (List Change)) : Session where
  hub := .of {
    library := .none
    registrations := registrations
    validators := []
    allowlist := kept given
    subscriptions := [] }
  schedule := schedule

def swapSession (ids : List String) (given : Option (List String)) : Session :=
  plainSession (ids.map fun id => plain id swapBody) given []

def idsValue (ids : List String) : Value := .list (ids.map .str)

def nodeFields (id : String) (params : Fields) (children : List Value) : Fields :=
  [("type", .str id), ("params", .object params), ("children", .list children)]

def still (id : String) (children : List Value) : Value :=
  .object (nodeFields id [] children)

/-- A node that replaces the allowlist when it is left. -/
def swap (id : String) (next : List String) (children : List Value) : Value :=
  .object (nodeFields id [("allowlist", idsValue next)] children)

def leaves (ids : List String) : List Value :=
  (ids.filter fun id => id ≠ "").map fun id => still id []

/-- The leaves of the first allowlist and, outside of them, the leaves of each later one
behind a node that puts it in force; the last one comes first in the list. -/
def tower (id : String) (first : List String) : List (List String) → List Value
  | [] => leaves first
  | next :: earlier => swap id next (tower id first earlier) :: leaves next

section

variable {ids : List String} {given reached : Option (List String)} {context : RenderContext}

theorem types_swapSession : (swapSession ids given).hub.registry.types = ids := by
  simp [swapSession, plainSession, plain, Hub.of, Registry.types, Function.comp_def]

theorem admission_swapSession {id : String} (registered : id ∈ ids)
    (permitted : Permits given (.str id)) (params : Value) :
    admission (swapSession ids given).hub.registry (.str id) params = .ok swapBody := by
  have found : ∃ registration, (swapSession ids given).hub.registry.find? id =
      some registration ∧ registration.plugin.body = some swapBody := by
    cases found : (swapSession ids given).hub.registry.find? id with
    | none =>
        simp only [Registry.find?, swapSession, plainSession, Hub.of, List.find?_eq_none,
          List.mem_map] at found
        exact absurd (found _ ⟨id, registered, rfl⟩) (by simp [plain])
    | some registration =>
        have member := List.mem_of_find?_eq_some found
        simp only [swapSession, plainSession, Hub.of, List.mem_map] at member
        obtain ⟨_, -, rfl⟩ := member
        exact ⟨_, rfl, rfl⟩
  obtain ⟨registration, found, hasBody⟩ := found
  exact admission_ok_iff.mpr ⟨isAllowed_iff.mpr (permits_kept_iff.mpr permitted), rfl, id,
    registration, rfl, found, hasBody⟩

theorem allowedIds?_idsValue (next : List String) :
    Registry.allowedIds? (idsValue next) = .ok (kept (some next)) :=
  Registry.allowedIds?_texts next

/-! ### The walk over such a tree -/

variable {children rest : List Value} {inner outer : List Moment}
  {between after last : Session}

/-- A node of the tree is passed when its children and the nodes after it are. -/
theorem walks_node {id : String} (params : Fields) (body : RenderBody)
    (registered : id ∈ ids) (permitted : Permits given (.str id))
    (bodied : ∀ node, swapBody ⟨node, paramsOf (nodeFields id params children), "", context⟩ = body)
    (below : Walks .silent context children (swapSession ids given) inner (.ok "") between)
    (played : play .silent body between = (.ok (.text ""), after))
    (others : Walks .silent context rest after outer (.ok "") last) :
    ∃ trace, Walks .silent context (.object (nodeFields id params children) :: rest)
        (swapSession ids given) trace (.ok "") last ∧
      changes trace = changes inner ++ trail .silent body between ++ changes outer := by
  have named : Value.str id = (Value.object (nodeFields id params children)).typeOf := rfl
  have admitted := admission_swapSession registered permitted
    (paramsOf (nodeFields id params children))
  rw [← bodied (nodeFields id params children)] at played ⊢
  have walks := Walks.left named admitted rfl below played rfl others
  exact ⟨_, walks, by simp⟩

theorem walks_still {id : String} (registered : id ∈ ids) (permitted : Permits given (.str id))
    (below : Walks .silent context children (swapSession ids given) inner (.ok "") between)
    (others : Walks .silent context rest between outer (.ok "") last) :
    ∃ trace, Walks .silent context (still id children :: rest) (swapSession ids given) trace
      (.ok "") last ∧ changes trace = changes inner ++ changes outer := by
  obtain ⟨trace, walks, changed⟩ := walks_node [] (.give (.text ""))
    registered permitted (fun node => rfl) below rfl others
  exact ⟨trace, walks, by simpa [trail] using changed⟩

theorem walks_swap {id : String} {next : List String} (registered : id ∈ ids)
    (permitted : Permits given (.str id))
    (below : Walks .silent context children (swapSession ids given) inner (.ok "")
      (swapSession ids reached))
    (others : Walks .silent context rest (swapSession ids (some next)) outer (.ok "") last) :
    ∃ trace, Walks .silent context (swap id next children :: rest) (swapSession ids given) trace
      (.ok "") last ∧ changes trace = changes inner ++ kept (some next) :: changes outer := by
  have stepped := perform_silent_ok (swapSession ids reached).hub (allowedIds?_idsValue next)
  have played : play .silent (.setAllowlist (idsValue next) fun _ => .give (.text ""))
      (swapSession ids reached) = (.ok (.text ""), swapSession ids (some next)) := by
    rw [play_setAllowlist, stepped]
    rfl
  have put : trail .silent (.setAllowlist (idsValue next) fun _ => .give (.text ""))
      (swapSession ids reached) = [kept (some next)] := by
    simp only [trail, stepped]
  obtain ⟨trace, walks, changed⟩ := walks_node [("allowlist", idsValue next)] _
    registered permitted (fun node => rfl) below played others
  exact ⟨trace, walks, by simpa [put] using changed⟩

theorem walks_leaves {names : List String} (registered : ∀ id ∈ names, id ≠ "" → id ∈ ids)
    (permitted : ∀ id ∈ names, Permits given (.str id)) :
    ∃ trace, Walks .silent context (leaves names) (swapSession ids given) trace (.ok "")
      (swapSession ids given) ∧ changes trace = [] := by
  induction names with
  | nil => exact ⟨[], .done, rfl⟩
  | cons id rest induction =>
      rw [List.forall_mem_cons] at registered permitted
      obtain ⟨outer, others, unchanged⟩ := induction registered.2 permitted.2
      by_cases empty : id = ""
      · have same : leaves (id :: rest) = leaves rest := by simp [leaves, empty]
        rw [same]
        exact ⟨outer, others, unchanged⟩
      · have split : leaves (id :: rest) = still id [] :: leaves rest := by simp [leaves, empty]
        obtain ⟨trace, walks, changed⟩ :=
          walks_still (registered.1 empty) permitted.1 .done others
        rw [split]
        exact ⟨trace, walks, by simpa [unchanged] using changed⟩

/-- The walk over a tower puts the later allowlists in force, the innermost first. -/
theorem walks_tower (context : RenderContext) {home : String} {first : List String}
    {earlier : List (List String)}
    (known : home ∈ ids) (permitted : Permits (some first) (.str home))
    (registered : ∀ names ∈ first :: earlier, ∀ id ∈ names, id ≠ "" → id ∈ ids) :
    ∃ trace, Walks .silent context (tower home first earlier) (swapSession ids (some first))
        trace (.ok "") (swapSession ids (some (earlier.head?.getD first))) ∧
      changes trace = earlier.reverse.map fun names => kept (some names) := by
  have own (names : List String) : ∀ id ∈ names, Permits (some names) (.str id) :=
    fun id => permits_some.mpr
  induction earlier with
  | nil => exact walks_leaves (registered first (by simp)) (own first)
  | cons next earlier induction =>
      obtain ⟨inner, below, put⟩ := induction fun names member =>
        registered names (by simp only [List.mem_cons] at member ⊢; tauto)
      obtain ⟨outer, others, unchanged⟩ : ∃ outer, Walks .silent context (leaves next)
          (swapSession ids (some next)) outer (.ok "") (swapSession ids (some next)) ∧
            changes outer = [] :=
        walks_leaves (registered next (by simp)) (own next)
      obtain ⟨trace, walks, changed⟩ := walks_swap known permitted below others
      refine ⟨trace, walks, ?_⟩
      rw [changed, put, unchanged]
      simp

end

theorem exists_node_tower (home : String) {first names : List String}
    {earlier : List (List String)} (member : names ∈ first :: earlier) {id : String}
    (among : id ∈ names) (given : id ≠ "") :
    ∃ root ∈ tower home first earlier, ∃ node ∈ root.nodes, node.typeOf = .str id := by
  have own : still id [] ∈ leaves names := by
    simp only [leaves, List.mem_map, List.mem_filter]
    exact ⟨id, by simp [among, given], rfl⟩
  induction earlier with
  | nil =>
      obtain rfl := List.mem_singleton.mp member
      exact ⟨_, own, _, Value.mem_nodes_iff.mpr (.inl rfl), rfl⟩
  | cons next earlier induction =>
      by_cases last : names = next
      · subst last
        exact ⟨_, List.mem_cons_of_mem _ own, _, Value.mem_nodes_iff.mpr (.inl rfl), rfl⟩
      · obtain ⟨root, inTower, node, inside, typed⟩ := induction (by
          simp only [List.mem_cons] at member ⊢
          tauto)
        exact ⟨_, List.mem_cons_self, node,
          Value.mem_nodes_iff.mpr (.inr ⟨root, inTower, inside⟩), typed⟩

/-! ### Which allowlists are safe -/

theorem onlySwaps_nil : OnlySwaps [] := by simp [OnlySwaps]

/-- If the first allowlist permits something, all of them can be put in force while a tree
is rendered that has a node for each id of each. -/
theorem exists_run {home : String} {first : List String} (later : List (List String))
    (given : home ≠ "") (permitted : Permits (some first) (.str home)) :
    ∃ tree, tree.truthy = true ∧ Nonempty (Run (some first) (later.map some) tree) ∧
      ∀ names ∈ first :: later, ∀ id ∈ names, id ≠ "" →
        ∃ node ∈ tree.nodes, node.typeOf = .str id := by
  let ids := ((first :: later).flatten.filter (· ≠ "")).dedup
  have registered : ∀ names ∈ first :: later.reverse, ∀ id ∈ names, id ≠ "" → id ∈ ids := by
    intro names member id among given
    simp only [ids, List.mem_dedup, List.mem_filter, List.mem_flatten]
    exact ⟨⟨names, by simpa using member, among⟩, by simpa using given⟩
  have known : home ∈ ids := registered first (by simp) home (permits_some.mp permitted) given
  obtain ⟨inner, below, put⟩ := walks_tower (.data .null) known permitted registered
  obtain ⟨trace, walks, changed⟩ := walks_still known permitted below .done
  refine ⟨still home (tower home first later.reverse), rfl, ⟨{
    context := .data .null
    session := swapSession ids (some first)
    after := _
    text := ""
    trace := trace
    answered := (answer_render _ _).trans walks.answer_eq
    traced := walks
    begins := rfl
    swapped := by simpa [put, Function.comp_def] using changed
    onlySwaps := onlySwaps_nil
    distinct := types_swapSession ▸ List.nodup_dedup _
    proper := by simp [types_swapSession, ids] }⟩, ?_⟩
  intro names member id among given
  obtain ⟨root, inTower, node, inside, typed⟩ := exists_node_tower home
    (show names ∈ first :: later.reverse by simpa using member) among given
  exact ⟨node, Value.mem_nodes_iff.mpr (.inr ⟨root, inTower, inside⟩), typed⟩

/-- Each node of a rendered tree is permitted by an allowlist that was in force. -/
theorem Run.permitted {first : Option (List String)} {later : List (Option (List String))}
    {tree : Value} (given : tree.truthy = true) (ran : Run first later tree) :
    ∀ node ∈ tree.nodes, ∃ id, id ≠ "" ∧ node.typeOf = .str id ∧
      ∃ allowlist ∈ first :: later, Permits allowlist (.str id) := by
  intro node inside
  have root : tree ∈ forestOf tree := by simp [forestOf, given]
  obtain ⟨id, registered, typed⟩ := ran.traced.registered ran.onlySwaps rfl tree root node inside
  obtain ⟨inForce, among, permits⟩ := ran.traced.permitted rfl tree root node inside
  rw [ran.begins, ran.swapped, ← List.map_cons, List.mem_map] at among
  obtain ⟨allowlist, member, rfl⟩ := among
  exact ⟨id, fun empty => ran.proper (empty ▸ registered), typed, allowlist, member,
    permits_kept_iff.mp (typed ▸ permits)⟩

/-- A tree that is rendered while allowlists are put in force has each node permitted by
one of them.  That one and the same permits all its nodes is sure just when the first
permits nothing, so that nothing is rendered, or one permits all that any other permits. -/
theorem oneAllowlist_iff (first : Option (List String)) (later : List (Option (List String))) :
    (∀ tree, tree.truthy = true → Run first later tree →
      ∀ node ∈ tree.nodes, ∃ given ∈ first :: later, Permits given node.typeOf) ∧
    ((∀ tree, tree.truthy = true → Run first later tree →
        ∃ given ∈ first :: later, ∀ node ∈ tree.nodes, Permits given node.typeOf) ↔
      (∀ id, id ≠ "" → ¬ Permits first (.str id)) ∨
        ∃ given ∈ first :: later, ∀ other ∈ first :: later, ∀ id, id ≠ "" →
          Permits other (.str id) → Permits given (.str id)) := by
  refine ⟨fun tree given ran node inside => ?_, fun safe => ?_, ?_⟩
  · obtain ⟨id, -, typed, allowlist, member, permits⟩ := ran.permitted given node inside
    exact ⟨allowlist, member, typed ▸ permits⟩
  · by_contra neither
    obtain ⟨something, narrow⟩ := not_or.mp neither
    push Not at something narrow
    obtain ⟨home, named, permitted⟩ := something
    -- An allowlist that permits every type would be the widest one.
    have limited : ∀ allowlist ∈ first :: later, allowlist ∈ Set.range some := by
      intro allowlist member
      cases allowlist with
      | some names => exact ⟨names, rfl⟩
      | none =>
          obtain ⟨other, -, id, -, -, refused⟩ := narrow none member
          exact absurd (permits_none _) refused
    obtain ⟨first, rfl⟩ := limited first List.mem_cons_self
    obtain ⟨later, rfl⟩ : later ∈ Set.range (List.map some) := by
      rw [Set.range_list_map]
      exact fun allowlist member => limited allowlist (List.mem_cons_of_mem _ member)
    obtain ⟨tree, truthy, ⟨ran⟩, noded⟩ := exists_run later named permitted
    obtain ⟨given, member, permits⟩ := safe tree truthy ran
    obtain ⟨other, among, id, proper, allowed, refused⟩ := narrow given member
    rw [← List.map_cons, List.mem_map] at among
    obtain ⟨names, among, rfl⟩ := among
    obtain ⟨node, inTree, typed⟩ := noded names among id (permits_some.mp allowed) proper
    exact refused (typed ▸ permits node inTree)
  · rintro (nothing | ⟨given, member, widest⟩) tree truthy ran
    · obtain ⟨id, named, typed, -⟩ := ran.permitted truthy tree (Value.mem_nodes_iff.mpr (.inl rfl))
      have traced := ran.traced
      rw [forestOf, if_pos truthy] at traced
      have permits := traced.permits_first
      rw [ran.begins, permits_kept_iff, typed] at permits
      exact absurd permits (nothing id named)
    · refine ⟨given, member, fun node inside => ?_⟩
      obtain ⟨id, named, typed, allowlist, among, permits⟩ := ran.permitted truthy node inside
      exact typed ▸ widest allowlist among id named permits

/-- A plugin that frames its children, one that waits, and one that does not; while it
waits, another allowlist is put in force. -/
def openerSession : Session :=
  plainSession
    [plain "Frame" fun args => .give (.text ("<" ++ args.children ++ ">")),
      plain "Opener" fun _ => .pause (.give (.text "open")),
      plain "Closer" fun _ => .give (.text "close")]
    (some ["Frame", "Opener"]) [[.setAllowlist (idsValue ["Frame", "Closer"])]]

def openerTree : Value := still "Frame" [still "Opener" [], still "Closer" []]

/-- While the opener waits, another allowlist is put in force.  The tree is rendered, and
neither of the two permits its nodes. -/
theorem openerTree_mixed :
    ∃ trace after, Walks .silent (.data .null) (forestOf openerTree) openerSession trace
        (.ok "<openclose>") after ∧
      (Program.answer (render .silent openerTree (.data .null)) openerSession).1 =
        .ok "<openclose>" ∧
      ∀ given ∈ allowlistOf openerSession :: changes trace,
        ∃ node ∈ openerTree.nodes, ¬ Permits given node.typeOf := by
  let swapped : Session := {
    hub := (openerSession.hub.perform .silent (.setAllowlist (idsValue ["Frame", "Closer"]))).2
    schedule := [] }
  have closes : admission swapped.hub.registry (.str "Closer") (.object []) =
      .ok fun _ => .give (.text "close") := rfl
  have opens : admission openerSession.hub.registry (.str "Opener") (.object []) =
      .ok fun _ => .pause (.give (.text "open")) := rfl
  have frames : admission openerSession.hub.registry (.str "Frame") (.object []) =
      .ok fun args => .give (.text ("<" ++ args.children ++ ">")) := rfl
  have closer : Walks .silent (.data .null) [still "Closer" []] swapped _
      ((Except.ok "").map ("close" ++ ·)) swapped :=
    .left rfl closes rfl .done rfl rfl .done
  have opener : Walks .silent (.data .null) [still "Opener" [], still "Closer" []]
      openerSession _ ((Except.ok "close").map ("open" ++ ·)) swapped :=
    .left rfl opens rfl .done rfl rfl closer
  have frame : Walks .silent (.data .null) (forestOf openerTree) openerSession _
      ((Except.ok "").map ("<openclose>" ++ ·)) swapped :=
    .left rfl frames rfl opener rfl rfl .done
  have nodes : openerTree.nodes =
      [openerTree, still "Opener" [], still "Closer" []] := by
    simp [Value.nodes_eq, openerTree, still, nodeFields, Value.childNodes, Fields.get?]
  refine ⟨_, swapped, frame, ?_, ?_⟩
  · rw [answer_render, frame.answer_eq]
    rfl
  · intro given among
    have inForce : given ∈ [kept (some ["Frame", "Opener"]), kept (some ["Frame", "Closer"])] :=
      among
    rw [List.mem_cons, List.mem_singleton] at inForce
    rcases inForce with rfl | rfl
    · refine ⟨still "Closer" [], by simp [nodes], fun permits => ?_⟩
      have permitted : Permits (some ["Frame", "Opener"]) (.str "Closer") :=
        permits_kept_iff.mp permits
      simp at permitted
    · refine ⟨still "Opener" [], by simp [nodes], fun permits => ?_⟩
      have permitted : Permits (some ["Frame", "Closer"]) (.str "Opener") :=
        permits_kept_iff.mp permits
      simp at permitted

end PageComposer.Renderer
