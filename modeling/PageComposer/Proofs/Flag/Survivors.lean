import PageComposer.Proofs.Flag.Pruning
import PageComposer.Proofs.Paths

/-!
# Which nodes survive pruning

A node stands when it and all nodes above it are tied to no flag or to one whose state they
want.  Pruning leaves the nodes that stand: each below the node it was below, in the order they
were in, and the same but for its params and its list of children.
-/

namespace PageComposer.Flag

variable {enabled : String → Bool}

/-- The check that finds the state of each flag in a table. -/
def stateOf (enabled : String → Bool) : Check := fun name => .ok (enabled name)

/-- An object that is not empty and is tied to no flag, or to one whose state it wants. -/
def stays (enabled : String → Bool) : Value → Bool
  | .object fields =>
      !fields.isEmpty &&
        (ofNode? (.object fields)).all fun flag => flag.admits (enabled flag.name)
  | _ => false

/-- The name of the flag that a node is tied to, if it is tied to one. -/
def ownName (node : Value) : List String := (ofNode? node).toList.map Flag.name

/-- The node at the end of a path and all nodes on the way stay. -/
def Stands (enabled : String → Bool) (tree : Value) (path : List Nat) : Prop :=
  ∀ before, before <+: path → ∃ node, tree.at? before = some node ∧ stays enabled node = true

/-- A kept node in the terms of the node it was. -/
structure KeptAs (fields entries : Fields) : Prop where
  params : Fields.get? entries "params" = some (.object (Fields.erase (paramsOf fields) param))
  list : ∀ value, Fields.get? fields "children" = some value →
    ∃ items, Fields.get? entries "children" = some (.list items)
  noList : Fields.get? fields "children" = none → Fields.get? entries "children" = none
  others : ∀ key, key ≠ "params" → key ≠ "children" →
    Fields.get? entries key = Fields.get? fields key
  keys : Fields.keys entries =
    if "params" ∈ Fields.keys fields then Fields.keys fields
    else Fields.keys fields ++ ["params"]

/-- The nodes of one tree are those nodes of another that stand, each at a new place. -/
structure Survives (enabled : String → Bool) (tree kept : Value)
    (place : List Nat → List Nat) : Prop where
  root : place [] = []
  child : ∀ path index, ∃ position, place (path ++ [index]) = place path ++ [position]
  keeps : ∀ path, Stands enabled tree path → ∃ fields entries,
    tree.at? path = some (.object fields) ∧ kept.at? (place path) = some (.object entries) ∧
      KeptAs fields entries
  order : ∀ path other, Stands enabled tree path → Stands enabled tree other → path < other →
    place path < place other
  onto : ∀ spot node, kept.at? spot = some node →
    ∃ path, Stands enabled tree path ∧ place path = spot

/-! ### Paths of nodes that stand -/

theorem stands_nil_iff {tree : Value} : Stands enabled tree [] ↔ stays enabled tree = true := by
  simp [Stands, Value.at?]

theorem Stands.stays {tree : Value} {path : List Nat} (stands : Stands enabled tree path) :
    stays enabled tree = true :=
  stands_nil_iff.mp fun before inside => stands before (inside.trans List.nil_prefix)

theorem stands_cons_iff {tree : Value} {index : Nat} {path : List Nat} :
    Stands enabled tree (index :: path) ↔ stays enabled tree = true ∧
      ∃ child, tree.childNodes[index]? = some child ∧ Stands enabled child path := by
  simp only [Stands, List.prefix_cons_iff]
  constructor
  · intro all
    have kept : stays enabled tree = true := by
      simpa [Value.at?] using all [] (.inl rfl)
    obtain ⟨node, found, -⟩ := all [index] (.inr ⟨[], rfl, List.nil_prefix⟩)
    obtain ⟨child, here, -⟩ := Value.exists_of_at?_cons found
    refine ⟨kept, child, here, fun before inside => ?_⟩
    rw [← Value.at?_cons before here]
    exact all _ (.inr ⟨before, rfl, inside⟩)
  · rintro ⟨kept, child, here, below⟩ before (rfl | ⟨rest, rfl, inside⟩)
    · exact ⟨tree, rfl, kept⟩
    · rw [Value.at?_cons rest here]
      exact below rest inside

/-! ### One step of pruning -/

theorem gate_stateOf {fields : Fields} (given : fields ≠ []) :
    gate (stateOf enabled) (paramsOf fields) =
      .ok (stays enabled (.object fields), ownName (.object fields)) := by
  cases tied : ofValue? (Fields.getD (paramsOf fields) param) with
  | none => simp [gate_of_none tied, stays, ownName, ofNode?, tied, given]
  | some flag =>
      rw [gate_of_some tied rfl]
      simp [stays, ownName, ofNode?, tied, given]

theorem prune_of_not_stays {fields : Fields} (given : fields ≠ [])
    (refused : stays enabled (.object fields) = false) :
    prune (stateOf enabled) (.object fields) = .ok (none, ownName (.object fields)) := by
  rw [prune_object_none_iff, gate_stateOf given, refused]
  exact .inr ⟨given, rfl⟩

/-- What stays below a node, whatever its children are. -/
theorem pruneItems_of_pruneChildren {check : Check} {fields : Fields}
    {children : Option (List Value)} {asked : List String}
    (pruned : pruneChildren check fields = .ok (children, asked)) :
    pruneItems check (Value.object fields).childNodes = .ok (children.getD [], asked) := by
  cases found : Fields.get? fields "children" with
  | none =>
      rw [pruneChildren_of_none found, Except.ok.injEq, Prod.mk.injEq] at pruned
      obtain ⟨rfl, rfl⟩ := pruned
      rw [Value.childNodes_of_none found]
      rfl
  | some value =>
      rw [pruneChildren_of_some found] at pruned
      cases value with
      | list items =>
          rw [Value.childNodes_of_list found]
          rcases below : pruneItems check items with fault | ⟨others, later⟩
          · simp [pruneChildren, below, bind, Except.bind] at pruned
          · simp only [pruneChildren, if_true, below, bind, Except.bind, pure, Except.pure,
              Except.ok.injEq, Prod.mk.injEq] at pruned
            obtain ⟨rfl, rfl⟩ := pruned
            rfl
      | _ =>
          have noNodes : (Value.object fields).childNodes = [] := by
            simp [Value.childNodes, found]
          simp only [pruneChildren, if_true] at pruned
          split at pruned <;> cases pruned
          all_goals
            rw [noNodes]
            rfl

theorem exists_keptAs {check : Check} {fields : Fields} {children : Option (List Value)}
    {asked : List String} (pruned : pruneChildren check fields = .ok (children, asked)) :
    ∃ entries, keep fields children = .object entries ∧ KeptAs fields entries := by
  obtain ⟨entries, shape, params, list, others, -⟩ := keep_spec fields children
  refine ⟨entries, shape, ⟨params, ?list, ?noList, others, ?keys⟩⟩
  case list =>
    intro value found
    cases children with
    | none => simp [get?_children_of_pruneChildren pruned] at found
    | some items => exact ⟨items, by simpa using list⟩
  case noList =>
    intro absent
    rw [pruneChildren_of_none absent, Except.ok.injEq, Prod.mk.injEq] at pruned
    rw [list, ← pruned.1, absent]
    rfl
  case keys =>
    cases children with
    | none =>
        simp only [keep, Value.object.injEq] at shape
        rw [← shape, Fields.keys_insert]
    | some items =>
        have there : "children" ∈ Fields.keys fields := by
          cases found : Fields.get? fields "children" with
          | none =>
              rw [pruneChildren_of_none found] at pruned
              cases pruned
          | some value => exact Fields.mem_keys_of_get? found
        simp only [keep, Value.object.injEq] at shape
        rw [← shape, Fields.keys_insert, if_pos (Fields.mem_keys_insert.mpr (.inr there)),
          Fields.keys_insert]

/-- What pruning does with a node that stays. -/
theorem prune_some_cases {tree kept : Value} {asked : List String}
    (pruned : prune (stateOf enabled) tree = .ok (some kept, asked)) :
    stays enabled tree = true ∧ ∃ fields entries later, tree = .object fields ∧
      kept = .object entries ∧ KeptAs fields entries ∧
      pruneItems (stateOf enabled) tree.childNodes = .ok (kept.childNodes, later) ∧
      asked = ownName tree ++ later := by
  cases tree with
  | object fields =>
      obtain ⟨given, own, children, later, gated, below, rfl, rfl⟩ :=
        prune_object_some_iff.mp pruned
      rw [gate_stateOf given, Except.ok.injEq, Prod.mk.injEq] at gated
      obtain ⟨kept, rfl⟩ := gated
      obtain ⟨entries, shape, same⟩ := exists_keptAs below
      refine ⟨kept, fields, entries, later, rfl, shape, same, ?_, rfl⟩
      rw [childNodes_keep below]
      exact pruneItems_of_pruneChildren below
  | _ =>
      simp only [prune] at pruned
      split at pruned <;> cases pruned

/-- What pruning does with a node that goes. -/
theorem prune_none_cases {tree : Value} {asked : List String}
    (pruned : prune (stateOf enabled) tree = .ok (none, asked)) :
    stays enabled tree = false ∧ asked = ownName tree := by
  cases tree with
  | object fields =>
      rcases prune_object_none_iff.mp pruned with ⟨rfl, rfl⟩ | ⟨given, gated⟩
      · exact ⟨rfl, rfl⟩
      · rw [gate_stateOf given, Except.ok.injEq, Prod.mk.injEq] at gated
        exact ⟨gated.1, gated.2.symm⟩
  | _ =>
      simp only [prune] at pruned
      split at pruned <;> cases pruned
      exact ⟨rfl, rfl⟩

theorem isSome_of_prune {tree : Value} {left : Option Value} {asked : List String}
    (pruned : prune (stateOf enabled) tree = .ok (left, asked)) :
    left.isSome = stays enabled tree := by
  cases left with
  | none => rw [(prune_none_cases pruned).1, Option.isSome_none]
  | some kept => rw [(prune_some_cases pruned).1, Option.isSome_some]

/-! ### New places -/

/-- Where a node stands once those that do not stay are gone: its index counts only the
siblings before it that stay. -/
def place (enabled : String → Bool) (tree : Value) : List Nat → List Nat
  | [] => []
  | index :: path =>
      (tree.childNodes.take index).countP (stays enabled) ::
        match tree.childNodes[index]? with
        -- A path that leads nowhere keeps its end, so that every path has a place.
        | none => path
        | some child => place enabled child path

theorem place_cons {tree child : Value} {index : Nat} (path : List Nat)
    (found : tree.childNodes[index]? = some child) :
    place enabled tree (index :: path) =
      (tree.childNodes.take index).countP (stays enabled) :: place enabled child path := by
  simp [place, found]

theorem place_concat (tree : Value) (path : List Nat) (index : Nat) :
    ∃ position, place enabled tree (path ++ [index]) = place enabled tree path ++ [position] := by
  induction path generalizing tree with
  | nil =>
      refine ⟨(tree.childNodes.take index).countP (stays enabled), ?_⟩
      cases found : tree.childNodes[index]? <;> simp [place, found]
  | cons first path induction =>
      cases found : tree.childNodes[first]? with
      | none => exact ⟨index, by simp [place, found]⟩
      | some child =>
          obtain ⟨position, same⟩ := induction child
          exact ⟨position, by rw [List.cons_append, place_cons _ found, same, place_cons _ found,
            List.cons_append]⟩

theorem countP_take_lt {items : List Value} {first second : Nat} {item : Value}
    (found : items[first]? = some item) (kept : stays enabled item = true)
    (before : first < second) :
    (items.take first).countP (stays enabled) < (items.take second).countP (stays enabled) := by
  have upTo : items.take (first + 1) = items.take first ++ [item] := by
    rw [List.take_add_one, found, Option.toList_some]
  have more : (items.take (first + 1)).countP (stays enabled) ≤
      (items.take second).countP (stays enabled) :=
    (List.take_sublist_take_left before).countP_le
  rw [upTo, List.countP_append, List.countP_singleton, if_pos kept] at more
  omega

theorem place_lt_place {tree : Value} {path other : List Nat} (stands : Stands enabled tree path)
    (standsToo : Stands enabled tree other) (before : path < other) :
    place enabled tree path < place enabled tree other := by
  induction path generalizing tree other with
  | nil =>
      cases other with
      | nil => exact absurd before (List.lt_irrefl [])
      | cons index rest =>
          simp only [place]
          exact List.nil_lt_cons _ _
  | cons first path induction =>
      cases other with
      | nil => exact absurd before (List.not_lt_nil _)
      | cons second rest =>
          obtain ⟨-, child, here, below⟩ := stands_cons_iff.mp stands
          obtain ⟨-, child', here', below'⟩ := stands_cons_iff.mp standsToo
          rw [place_cons _ here, place_cons _ here', List.cons_lt_cons_iff]
          rcases List.cons_lt_cons_iff.mp before with earlier | ⟨rfl, deeper⟩
          · exact .inl (countP_take_lt here below.stays earlier)
          · obtain rfl : child = child' := Option.some.inj (here.symm.trans here')
            exact .inr ⟨rfl, induction below below' deeper⟩

/-! ### What is left of siblings -/

theorem getElem?_pruneItems {items kept : List Value} {asked own : List String} {index : Nat}
    {child node : Value} (pruned : pruneItems (stateOf enabled) items = .ok (kept, asked))
    (found : items[index]? = some child)
    (ofChild : prune (stateOf enabled) child = .ok (some node, own)) :
    kept[(items.take index).countP (stays enabled)]? = some node := by
  induction items generalizing kept asked index with
  | nil => simp at found
  | cons item rest induction =>
      obtain ⟨first, own', others, later, ofItem, ofRest, rfl, rfl⟩ :=
        pruneItems_cons_iff.mp pruned
      cases index with
      | zero =>
          simp only [List.getElem?_cons_zero, Option.some.injEq] at found
          subst found
          rw [ofChild, Except.ok.injEq, Prod.mk.injEq] at ofItem
          simp [← ofItem.1]
      | succ index =>
          have there := induction ofRest found
          -- The first item is counted just when it was kept.
          have counts := isSome_of_prune ofItem
          rw [List.take_succ_cons, List.countP_cons, ← counts]
          cases first <;> simpa using there

theorem exists_of_getElem?_pruneItems {items kept : List Value} {asked : List String}
    {position : Nat} {node : Value}
    (pruned : pruneItems (stateOf enabled) items = .ok (kept, asked))
    (found : kept[position]? = some node) :
    ∃ index child own, items[index]? = some child ∧
      prune (stateOf enabled) child = .ok (some node, own) ∧
      (items.take index).countP (stays enabled) = position := by
  induction items generalizing kept asked position with
  | nil =>
      cases pruned
      simp at found
  | cons item rest induction =>
      obtain ⟨first, own, others, later, ofItem, ofRest, rfl, rfl⟩ :=
        pruneItems_cons_iff.mp pruned
      have counts := isSome_of_prune ofItem
      cases first with
      | none =>
          obtain ⟨index, child, own, here, ofChild, rfl⟩ :=
            induction ofRest (by simpa using found)
          refine ⟨index + 1, child, own, here, ofChild, ?_⟩
          rw [List.take_succ_cons, List.countP_cons, ← counts]
          simp
      | some first =>
          cases position with
          | zero =>
              simp only [Option.toList_some, List.singleton_append, List.getElem?_cons_zero,
                Option.some.injEq] at found
              subst found
              exact ⟨0, item, own, rfl, ofItem, rfl⟩
          | succ position =>
              obtain ⟨index, child, own, here, ofChild, rfl⟩ :=
                induction ofRest (by simpa using found)
              refine ⟨index + 1, child, own, here, ofChild, ?_⟩
              rw [List.take_succ_cons, List.countP_cons, ← counts]
              simp

/-- Of a list that can be pruned every item can. -/
theorem exists_prune_of_pruneItems {check : Check} {items kept : List Value}
    {asked : List String} {item : Value} (pruned : pruneItems check items = .ok (kept, asked))
    (member : item ∈ items) : ∃ left own, prune check item = .ok (left, own) := by
  induction items generalizing kept asked with
  | nil => simp at member
  | cons first rest induction =>
      obtain ⟨left, own, others, later, ofFirst, ofRest, -⟩ := pruneItems_cons_iff.mp pruned
      rcases List.mem_cons.mp member with rfl | inRest
      · exact ⟨left, own, ofFirst⟩
      · exact induction ofRest inRest

/-! ### The nodes that are left -/

theorem keptAs_of_stands {tree kept : Value} {asked : List String} {path : List Nat}
    (pruned : prune (stateOf enabled) tree = .ok (some kept, asked))
    (stands : Stands enabled tree path) :
    ∃ fields entries, tree.at? path = some (.object fields) ∧
      kept.at? (place enabled tree path) = some (.object entries) ∧ KeptAs fields entries := by
  induction path generalizing tree kept asked with
  | nil =>
      obtain ⟨-, fields, entries, later, rfl, rfl, same, -⟩ := prune_some_cases pruned
      exact ⟨fields, entries, rfl, rfl, same⟩
  | cons index path induction =>
      obtain ⟨-, -, -, later, -, -, -, below, -⟩ := prune_some_cases pruned
      obtain ⟨-, child, here, deeper⟩ := stands_cons_iff.mp stands
      obtain ⟨left, own, ofChild⟩ :=
        exists_prune_of_pruneItems below (List.mem_of_getElem? here)
      -- The child stays, so it was kept, and the path goes on below it.
      obtain ⟨node, rfl⟩ : ∃ node, left = some node := by
        rw [← Option.isSome_iff_exists, isSome_of_prune ofChild, deeper.stays]
      obtain ⟨fields, entries, found, foundToo, same⟩ := induction ofChild deeper
      refine ⟨fields, entries, ?_, ?_, same⟩
      · rw [Value.at?_cons path here, found]
      · rw [place_cons path here, Value.at?_cons _ (getElem?_pruneItems below here ofChild),
          foundToo]

theorem exists_stands_of_at? {tree kept node : Value} {asked : List String} {spot : List Nat}
    (pruned : prune (stateOf enabled) tree = .ok (some kept, asked))
    (found : kept.at? spot = some node) :
    ∃ path, Stands enabled tree path ∧ place enabled tree path = spot := by
  induction spot generalizing tree kept asked with
  | nil => exact ⟨[], stands_nil_iff.mpr (prune_some_cases pruned).1, rfl⟩
  | cons position spot induction =>
      obtain ⟨kept', -, -, later, -, -, -, below, -⟩ := prune_some_cases pruned
      obtain ⟨left, there, deeper⟩ := Value.exists_of_at?_cons found
      obtain ⟨index, child, own, here, ofChild, rfl⟩ :=
        exists_of_getElem?_pruneItems below there
      obtain ⟨path, stands, rfl⟩ := induction ofChild deeper
      exact ⟨index :: path, stands_cons_iff.mpr ⟨kept', child, here, stands⟩,
        place_cons path here⟩

theorem survives {tree kept : Value} {asked : List String}
    (pruned : prune (stateOf enabled) tree = .ok (some kept, asked)) :
    Survives enabled tree kept (place enabled tree) where
  root := rfl
  child := place_concat tree
  keeps _ stands := keptAs_of_stands pruned stands
  order _ _ stands standsToo before := place_lt_place stands standsToo before
  onto _ _ found := exists_stands_of_at? pruned found

end PageComposer.Flag
