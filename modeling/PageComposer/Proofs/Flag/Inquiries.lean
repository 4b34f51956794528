import Mathlib.Data.List.Forall2
import PageComposer.Proofs.Flag.Survivors

/-!
# Which flags pruning asks for

Pruning asks for the flag of each node that is tied to one and stands below nodes that stay, in
the order of the document, and for no other.  Of a node that goes it looks at the flag alone:
what else there is in it may have any shape.
-/

namespace PageComposer.Flag

variable {enabled : String → Bool}

/-- The node at the end of a path is tied to a flag, and all nodes on the way stay. -/
def Consulted (enabled : String → Bool) (tree : Value) (path : List Nat) : Prop :=
  (∀ before, before <+: path → before ≠ path →
    ∃ node, tree.at? before = some node ∧ stays enabled node = true) ∧
  ∃ node flag, tree.at? path = some node ∧ ofNode? node = some flag

/-- The node at the end of a path is tied to a flag of this name. -/
def NamedAt (tree : Value) (path : List Nat) (name : String) : Prop :=
  ∃ node flag, tree.at? path = some node ∧ ofNode? node = some flag ∧ flag.name = name

/-- The names that are asked for, each with the path of the node it is asked for. -/
structure Asks (enabled : String → Bool) (tree : Value) (paths : List (List Nat))
    (asked : List String) : Prop where
  ordered : paths.Pairwise (· < ·)
  mem_iff : ∀ path, path ∈ paths ↔ Consulted enabled tree path
  names : List.Forall₂ (NamedAt tree) paths asked

theorem consulted_nil_iff {tree : Value} :
    Consulted enabled tree [] ↔ ∃ flag, ofNode? tree = some flag := by
  simp [Consulted, Value.at?]

theorem consulted_cons_iff {tree : Value} {index : Nat} {path : List Nat} :
    Consulted enabled tree (index :: path) ↔ stays enabled tree = true ∧
      ∃ child, tree.childNodes[index]? = some child ∧ Consulted enabled child path := by
  simp only [Consulted, List.prefix_cons_iff]
  constructor
  · rintro ⟨all, node, flag, found, tied⟩
    have kept : stays enabled tree = true := by
      simpa [Value.at?] using all [] (.inl rfl) (by simp)
    obtain ⟨child, here, found⟩ := Value.exists_of_at?_cons found
    refine ⟨kept, child, here, ?_, node, flag, found, tied⟩
    intro before inside different
    rw [← Value.at?_cons before here]
    exact all _ (.inr ⟨before, rfl, inside⟩) (by simpa using different)
  · rintro ⟨kept, child, here, below, node, flag, found, tied⟩
    refine ⟨?_, node, flag, by rw [Value.at?_cons path here, found], tied⟩
    rintro before (rfl | ⟨rest, rfl, inside⟩) different
    · exact ⟨tree, rfl, kept⟩
    · rw [Value.at?_cons rest here]
      exact below rest inside (by simpa using different)

/-- What is asked below a node, where its children are these items from an index on. -/
structure AsksBelow (enabled : String → Bool) (start : Nat) (items : List Value)
    (paths : List (List Nat)) (asked : List String) : Prop where
  ordered : paths.Pairwise (· < ·)
  mem_iff : ∀ path, path ∈ paths ↔ ∃ index child rest, items[index]? = some child ∧
    path = (start + index) :: rest ∧ Consulted enabled child rest
  names : List.Forall₂ (fun path name => ∃ index child rest, items[index]? = some child ∧
    path = (start + index) :: rest ∧ NamedAt child rest name) paths asked

theorem AsksBelow.cons {start : Nat} {item : Value} {rest : List Value}
    {paths others : List (List Nat)} {own later : List String}
    (first : Asks enabled item paths own)
    (below : AsksBelow enabled (start + 1) rest others later) :
    AsksBelow enabled start (item :: rest) (paths.map (start :: ·) ++ others) (own ++ later) where
  ordered := by
    rw [List.pairwise_append, List.pairwise_map]
    refine ⟨first.ordered.imp fun before => ?_, below.ordered, ?_⟩
    · exact List.cons_lt_cons_iff.mpr (.inr ⟨rfl, before⟩)
    · -- Paths into the first item begin with a smaller index than all others.
      intro path member other memberToo
      obtain ⟨inner, -, rfl⟩ := List.mem_map.mp member
      obtain ⟨index, child, deeper, -, rfl, -⟩ := (below.mem_iff other).mp memberToo
      exact List.cons_lt_cons_iff.mpr (.inl (by omega))
  mem_iff path := by
    rw [List.mem_append, List.mem_map, below.mem_iff]
    constructor
    · rintro (⟨inner, member, rfl⟩ | ⟨index, child, deeper, here, rfl, consulted⟩)
      · exact ⟨0, item, inner, rfl, rfl, (first.mem_iff inner).mp member⟩
      · exact ⟨index + 1, child, deeper, here, by rw [Nat.add_right_comm, Nat.add_assoc],
          consulted⟩
    · rintro ⟨index, child, deeper, here, rfl, consulted⟩
      cases index with
      | zero =>
          obtain rfl : item = child := Option.some.inj here
          exact .inl ⟨deeper, (first.mem_iff deeper).mpr consulted, rfl⟩
      | succ index =>
          exact .inr ⟨index, child, deeper, here, by rw [Nat.add_right_comm, Nat.add_assoc],
            consulted⟩
  names := by
    apply List.rel_append
    · rw [List.forall₂_map_left_iff]
      exact first.names.imp fun path name named => ⟨0, item, path, rfl, rfl, named⟩
    · refine below.names.imp ?_
      rintro path name ⟨index, child, deeper, here, rfl, named⟩
      exact ⟨index + 1, child, deeper, here, by rw [Nat.add_right_comm, Nat.add_assoc], named⟩

theorem exists_asksBelow {items kept : List Value} {asked : List String}
    (each : ∀ item ∈ items, ∀ left own, prune (stateOf enabled) item = .ok (left, own) →
      ∃ paths, Asks enabled item paths own)
    (pruned : pruneItems (stateOf enabled) items = .ok (kept, asked)) (start : Nat) :
    ∃ paths, AsksBelow enabled start items paths asked := by
  induction items generalizing kept asked start with
  | nil =>
      cases pruned
      exact ⟨[], .nil, by simp, .nil⟩
  | cons item rest induction =>
      obtain ⟨first, own, others, later, ofItem, ofRest, -, rfl⟩ :=
        pruneItems_cons_iff.mp pruned
      obtain ⟨paths, asksFirst⟩ := each item (by simp) _ _ ofItem
      obtain ⟨later, asksOthers⟩ :=
        induction (fun other member => each other (by simp [member])) ofRest (start + 1)
      exact ⟨_, AsksBelow.cons asksFirst asksOthers⟩

/-- The children of a node that pruning comes to. -/
def reached (enabled : String → Bool) (tree : Value) : List Value :=
  if stays enabled tree then tree.childNodes else []

theorem childNodes_of_reached {tree child : Value} {index : Nat}
    (here : (reached enabled tree)[index]? = some child) :
    tree.childNodes[index]? = some child := by
  unfold reached at here
  split at here
  · exact here
  · simp at here

theorem consulted_cons_iff_reached {tree : Value} {index : Nat} {path : List Nat} :
    Consulted enabled tree (index :: path) ↔
      ∃ child, (reached enabled tree)[index]? = some child ∧ Consulted enabled child path := by
  rw [consulted_cons_iff, reached]
  cases stays enabled tree <;> simp

theorem pruneItems_reached {tree : Value} {left : Option Value} {asked : List String}
    (pruned : prune (stateOf enabled) tree = .ok (left, asked)) :
    ∃ kept later, pruneItems (stateOf enabled) (reached enabled tree) = .ok (kept, later) ∧
      asked = ownName tree ++ later := by
  cases left with
  | none =>
      obtain ⟨gone, rfl⟩ := prune_none_cases pruned
      exact ⟨[], [], by simp [reached, gone, pruneItems], by simp⟩
  | some kept =>
      obtain ⟨stayed, -, -, later, -, -, -, below, same⟩ := prune_some_cases pruned
      exact ⟨_, later, by rw [reached, if_pos stayed, below], same⟩

theorem Asks.of_below {tree : Value} {paths : List (List Nat)} {later : List String}
    (below : AsksBelow enabled 0 (reached enabled tree) paths later) :
    Asks enabled tree ((ownName tree).map (fun _ => []) ++ paths) (ownName tree ++ later) := by
  have inside : ∀ path ∈ paths, ∃ index rest, path = index :: rest := by
    intro path member
    obtain ⟨index, child, rest, -, rfl, -⟩ := (below.mem_iff path).mp member
    exact ⟨_, rest, rfl⟩
  have own : ∀ path ∈ (ownName tree).map fun _ => ([] : List Nat), path = [] := by
    intro path member
    obtain ⟨-, -, rfl⟩ := List.mem_map.mp member
    rfl
  constructor
  · rw [List.pairwise_append]
    refine ⟨?_, below.ordered, ?_⟩
    · cases tied : ofNode? tree <;> simp [ownName, tied]
    · intro path member other memberToo
      obtain ⟨index, rest, rfl⟩ := inside other memberToo
      rw [own path member]
      exact List.nil_lt_cons index rest
  · intro path
    rw [List.mem_append]
    cases path with
    | nil =>
        have only : [] ∉ paths := by
          intro member
          obtain ⟨index, rest, same⟩ := inside [] member
          cases same
        rw [consulted_nil_iff]
        cases tied : ofNode? tree <;> simp [ownName, tied, only]
    | cons index rest =>
        have only : index :: rest ∉ (ownName tree).map fun _ => ([] : List Nat) :=
          fun member => List.cons_ne_nil _ _ (own _ member)
        rw [below.mem_iff, consulted_cons_iff_reached, or_iff_right only]
        constructor
        · rintro ⟨index', child, rest', here, same, consulted⟩
          rw [Nat.zero_add, List.cons.injEq] at same
          obtain ⟨rfl, rfl⟩ := same
          exact ⟨child, here, consulted⟩
        · rintro ⟨child, here, consulted⟩
          exact ⟨index, child, rest, here, by rw [Nat.zero_add], consulted⟩
  · apply List.rel_append
    · cases tied : ofNode? tree <;> simp [ownName, NamedAt, tied, Value.at?]
    · refine below.names.imp ?_
      rintro path name ⟨index, child, rest, here, rfl, node, flag, found, tied, named⟩
      refine ⟨node, flag, ?_, tied, named⟩
      rw [Nat.zero_add, Value.at?_cons rest (childNodes_of_reached here), found]

theorem exists_asks {tree : Value} {left : Option Value} {asked : List String}
    (pruned : prune (stateOf enabled) tree = .ok (left, asked)) :
    ∃ paths, Asks enabled tree paths asked := by
  induction tree using Value.treeInduction generalizing left asked with
  | node tree induction =>
      obtain ⟨kept, later, below, rfl⟩ := pruneItems_reached pruned
      have each : ∀ item ∈ reached enabled tree, ∀ left own,
          prune (stateOf enabled) item = .ok (left, own) →
            ∃ paths, Asks enabled item paths own := by
        intro item member left own ofItem
        unfold reached at member
        split at member
        · exact induction item member ofItem
        · simp at member
      obtain ⟨paths, asks⟩ := exists_asksBelow each below 0
      exact ⟨_, Asks.of_below asks⟩

/-! ### Trees that can be pruned -/

/-- A tree of objects that are not empty.  The children of a node, where it has any, are null
or a list of nulls and such trees; but a node that goes may have anything below it. -/
inductive Readable (enabled : String → Bool) : Value → Prop where
  | null : Readable enabled .null
  | node {fields : Fields} (given : fields ≠ [])
      (children : stays enabled (.object fields) = true →
        ∀ value, Fields.get? fields "children" = some value →
          value = .null ∨ ∃ items, value = .list items)
      (below : stays enabled (.object fields) = true →
        ∀ child ∈ (Value.object fields).childNodes, Readable enabled child) :
      Readable enabled (.object fields)

theorem exists_prune {tree : Value} (readable : Readable enabled tree) :
    ∃ left asked, prune (stateOf enabled) tree = .ok (left, asked) := by
  induction readable with
  | null => exact ⟨none, [], rfl⟩
  | @node fields given children _ induction =>
      cases kept : stays enabled (.object fields) with
      | false => exact ⟨_, _, prune_of_not_stays given kept⟩
      | true =>
          have below : ∃ children later,
              pruneChildren (stateOf enabled) fields = .ok (children, later) := by
            cases found : Fields.get? fields "children" with
            | none => exact ⟨_, _, pruneChildren_of_none found⟩
            | some value =>
                rcases children kept value found with rfl | ⟨items, rfl⟩
                · exact ⟨_, _, pruneChildren_of_some found⟩
                · rw [Value.childNodes_of_list found] at induction
                  obtain ⟨others, later, below⟩ := exists_pruneItems (induction kept)
                  exact ⟨_, _, pruneChildren_of_list found below⟩
          obtain ⟨children, later, below⟩ := below
          have gated : gate (stateOf enabled) (paramsOf fields) =
              .ok (true, ownName (.object fields)) := by
            rw [gate_stateOf given, kept]
          exact ⟨_, _, prune_object_some_iff.mpr
            ⟨given, _, children, later, gated, below, rfl, rfl⟩⟩

/-! ### What pruning does not look at -/

theorem pruneItems_set {check : Check} {items : List Value} {index : Nat} {child other : Value}
    (here : items[index]? = some child) (alike : prune check other = prune check child) :
    pruneItems check (items.set index other) = pruneItems check items := by
  induction items generalizing index with
  | nil => simp at here
  | cons item rest induction =>
      cases index with
      | zero =>
          obtain rfl : item = child := Option.some.inj here
          simp [pruneItems, alike]
      | succ index => simp [pruneItems, induction here]

theorem pruneChildren_insert (check : Check) (fields : Fields) (items : List Value) :
    pruneChildren check (Fields.insert fields "children" (.list items)) =
      (pruneItems check items).map fun (kept, asked) => (some kept, asked) := by
  rw [pruneChildren_of_some (by rw [Fields.get?_insert, if_pos rfl])]
  rcases below : pruneItems check items with fault | ⟨kept, asked⟩ <;>
    simp [pruneChildren, below, bind, Except.bind, pure, Except.pure, Except.map]

theorem paramsOf_insert (fields : Fields) (value : Value) :
    paramsOf (Fields.insert fields "children" value) = paramsOf fields := by
  simp [paramsOf, Fields.get?_insert]

theorem keep_insert {fields : Fields} (there : "children" ∈ Fields.keys fields) (value : Value)
    (kept : List Value) :
    keep (Fields.insert fields "children" value) (some kept) = keep fields (some kept) := by
  simp only [keep, paramsOf_insert]
  rw [Fields.insert_comm there (by decide), Fields.insert_insert]

/-- Another list of children that is pruned alike makes no difference. -/
theorem prune_insert {check : Check} {fields : Fields} {items others : List Value}
    (listed : Fields.get? fields "children" = some (.list items))
    (alike : pruneItems check others = pruneItems check items) :
    prune check (.object (Fields.insert fields "children" (.list others))) =
      prune check (.object fields) := by
  have there := Fields.mem_keys_of_get? listed
  have same : fields = Fields.insert fields "children" (.list items) :=
    (Fields.insert_of_get? listed).symm
  have given : fields ≠ [] := by
    rintro rfl
    cases there
  have below := pruneChildren_insert check fields others
  have belowToo := pruneChildren_insert check fields items
  rw [alike] at below
  rw [← same] at belowToo
  rcases answers : pruneItems check items with fault | ⟨kept, later⟩ <;>
    simp only [answers, Except.map] at below belowToo <;>
    simp [prune, given, Fields.insert_ne_nil, paramsOf_insert, below, belowToo, bind, Except.bind,
      keep_insert there]

/-- Of a node that goes nothing counts but its flag. -/
theorem prune_setAt {tree : Value} {path : List Nat} {fields others : Fields}
    (found : tree.at? path = some (.object fields)) (gone : ¬ Stands enabled tree path)
    (given : fields ≠ []) (givenToo : others ≠ [])
    (sameFlag : ofNode? (.object others) = ofNode? (.object fields)) :
    prune (stateOf enabled) (tree.setAt path (.object others)) =
      prune (stateOf enabled) tree := by
  induction path generalizing tree with
  | nil =>
      obtain rfl : tree = .object fields := Option.some.inj found
      rw [stands_nil_iff, Bool.not_eq_true] at gone
      have goneToo : stays enabled (.object others) = false := by
        simpa [stays, sameFlag, given, givenToo] using gone
      rw [Value.setAt, prune_of_not_stays given gone, prune_of_not_stays givenToo goneToo,
        ownName, sameFlag, ownName]
  | cons index path induction =>
      obtain ⟨child, here, deeper⟩ := Value.exists_of_at?_cons found
      obtain ⟨outer, items, rfl, listed, nodes⟩ := Value.exists_list_of_childNodes here
      rw [nodes] at here
      rw [Value.setAt_cons listed here]
      have full : outer ≠ [] := by
        rintro rfl
        cases listed
      -- Where this node stays, its child goes or stands above one that does.  Where it does not,
      -- its flag is all that counts, and that is not below it.
      cases kept : stays enabled (.object outer) with
      | true =>
          have goneBelow : ¬ Stands enabled child path := by
            intro stands
            exact gone (stands_cons_iff.mpr ⟨kept, child, by rw [nodes, here], stands⟩)
          exact prune_insert listed (pruneItems_set here (induction deeper goneBelow))
      | false =>
          have sameOuter : ofNode? (.object (Fields.insert outer "children"
              (.list (items.set index (child.setAt path (.object others)))))) =
                ofNode? (.object outer) := by
            rw [ofNode?, paramsOf_insert, ofNode?]
          have goneToo : stays enabled (.object (Fields.insert outer "children"
              (.list (items.set index (child.setAt path (.object others)))))) = false := by
            simpa [stays, sameOuter, full, Fields.insert_ne_nil] using kept
          rw [prune_of_not_stays full kept, prune_of_not_stays Fields.insert_ne_nil goneToo,
            ownName, sameOuter, ownName]

/-- Every readable tree is pruned.  What is left of it are the nodes that stand, the names that
were asked are those of the nodes tied to a flag below nodes that stand, and neither depends on
anything in a node that goes but its flag. -/
theorem prune_survivors {tree : Value} (readable : Readable enabled tree) :
    ∃ left asked, prune (stateOf enabled) tree = .ok (left, asked) ∧
      (left = none ↔ ¬ Stands enabled tree []) ∧
      (∀ kept, left = some kept → ∃ place, Survives enabled tree kept place) ∧
      (∃ paths, Asks enabled tree paths asked) ∧
      ∀ path fields others, tree.at? path = some (.object fields) →
        ¬ Stands enabled tree path → fields ≠ [] → others ≠ [] →
        ofNode? (.object others) = ofNode? (.object fields) →
        prune (stateOf enabled) (tree.setAt path (.object others)) = .ok (left, asked) := by
  obtain ⟨left, asked, pruned⟩ := exists_prune readable
  refine ⟨left, asked, pruned, ?gone, ?kept, exists_asks pruned, ?blind⟩
  case gone =>
    rw [stands_nil_iff, ← isSome_of_prune pruned]
    simp
  case kept =>
    rintro kept rfl
    exact ⟨place enabled tree, survives pruned⟩
  case blind =>
    intro path fields others found gone given givenToo sameFlag
    rw [prune_setAt found gone given givenToo sameFlag, pruned]

/-- A node above one that wants a flag on and one that wants it off; the children of the first
one are no list. -/
def guardedTree : Value :=
  .object [("type", "Row"), ("params", .null), ("children", .list [
    .null,
    .object [("params", .object [("featureFlag", "sale")]), ("children", .int 7)],
    .object [("params", .object [("text", "hello"),
      ("featureFlag", .object [("name", "sale"), ("invert", .bool true)])])]])]

def unguardedTree : Value :=
  .object [("type", "Row"), ("params", .object []), ("children", .list [
    .object [("params", .object [("text", "hello")])]])]

theorem prune_survivors_guardedTree :
    Readable (fun _ => false) guardedTree ∧
      prune (stateOf fun _ => false) guardedTree = .ok (some unguardedTree, ["sale", "sale"]) ∧
      (∃ place, Survives (fun _ => false) guardedTree unguardedTree place) ∧
      prune (stateOf fun _ => false) (guardedTree.setAt [1] (.object [
        ("params", .object [("featureFlag", "sale")]), ("children", .list [.bool true])])) =
          .ok (some unguardedTree, ["sale", "sale"]) := by
  have readable : Readable (fun _ => false) guardedTree := by
    refine .node (by simp) ?_ ?_
    · intro _ value found
      exact .inr ⟨_, (Option.some.inj found).symm⟩
    · intro _ child member
      rw [Value.childNodes_of_list rfl] at member
      simp only [List.mem_cons, List.not_mem_nil, or_false] at member
      rcases member with rfl | rfl | rfl
      · exact .null
      · exact .node (by simp) nofun nofun
      · refine .node (by simp) (fun _ value found => ?_) (fun _ child member => ?_)
        · cases found
        · cases member
  have pruned : prune (stateOf fun _ => false) guardedTree =
      .ok (some unguardedTree, ["sale", "sale"]) := rfl
  obtain ⟨left, asked, answered, -, survives, -, blind⟩ := prune_survivors readable
  rw [pruned, Except.ok.injEq, Prod.mk.injEq] at answered
  obtain ⟨rfl, rfl⟩ := answered
  refine ⟨readable, pruned, survives _ rfl, ?_⟩
  refine blind [1] _ _ rfl ?_ (by simp) (by simp) rfl
  intro stands
  obtain ⟨-, child, here, below⟩ := stands_cons_iff.mp stands
  cases here
  cases below.stays

end PageComposer.Flag
