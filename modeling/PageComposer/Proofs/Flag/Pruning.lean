import PageComposer.Flag
import PageComposer.Proofs.Page.Grammar

/-!
# Pruned trees

What one step of `Flag.prune` can do is said once, by `prune_object_some_iff` and
`prune_object_none_iff`.  From these, by induction on trees: no node of a pruned tree
is tied to a flag, and a tree that follows the grammar of nodes is pruned without a
fault to nothing or to a tree that follows it too.
-/

namespace PageComposer.Flag

variable {check : Check}

/-- The flag that a node is tied to. -/
def ofNode? : Value → Option Flag
  | .object fields => ofValue? (Fields.getD (paramsOf fields) param)
  | _ => none

/-- The params of a node do not tie it to a flag, be it well formed or not. -/
def Unflagged (node : Value) : Prop :=
  ∀ fields, node = .object fields → param ∉ Fields.keys (paramsOf fields)

/-! ### One step -/

theorem gate_of_none {params : Fields} (untied : ofValue? (Fields.getD params param) = none) :
    gate check params = .ok (true, []) := by
  simp [gate, untied]

theorem gate_of_some {params : Fields} {flag : Flag} {enabled : Bool}
    (tied : ofValue? (Fields.getD params param) = some flag)
    (answer : check flag.name = .ok enabled) :
    gate check params = .ok (flag.admits enabled, [flag.name]) := by
  simp [gate, tied, answer, bind, Except.bind, pure, Except.pure]

/-- A node stays with what stays below it. -/
theorem prune_object_some_iff {fields : Fields} {kept : Value} {asked : List String} :
    prune check (.object fields) = .ok (some kept, asked) ↔
      fields ≠ [] ∧ ∃ own children later, gate check (paramsOf fields) = .ok (true, own) ∧
        pruneChildren check fields = .ok (children, later) ∧
        kept = keep fields children ∧ asked = own ++ later := by
  cases fields with
  | nil => simp [prune]
  | cons entry rest =>
      rcases gated : gate check (paramsOf (entry :: rest)) with fault | ⟨stays, own⟩
      · simp [prune, gated, bind, Except.bind]
      · cases stays <;> rcases below : pruneChildren check (entry :: rest) with
          fault | ⟨children, later⟩ <;>
          simp [prune, gated, below, bind, Except.bind, pure, Except.pure,
            eq_comm (b := kept), eq_comm (b := asked), and_assoc]

/-- A node goes by its own flag alone. -/
theorem prune_object_none_iff {fields : Fields} {asked : List String} :
    prune check (.object fields) = .ok (none, asked) ↔
      fields = [] ∧ asked = [] ∨
        fields ≠ [] ∧ gate check (paramsOf fields) = .ok (false, asked) := by
  cases fields with
  | nil => simp [prune, eq_comm]
  | cons entry rest =>
      rcases gated : gate check (paramsOf (entry :: rest)) with fault | ⟨stays, own⟩
      · simp [prune, gated, bind, Except.bind]
      · cases stays <;> rcases below : pruneChildren check (entry :: rest) with
          fault | ⟨children, later⟩ <;>
          simp [prune, gated, below, bind, Except.bind, pure, Except.pure]

theorem pruneChildren_of_none {fields : Fields}
    (absent : Fields.get? fields "children" = none) :
    pruneChildren check fields = .ok (none, []) := by
  induction fields with
  | nil => rfl
  | cons entry rest induction =>
      obtain ⟨key, value⟩ := entry
      by_cases same : key = "children"
      · simp [Fields.get?, same] at absent
      · simp only [Fields.get?, if_neg same] at absent
        cases value <;> simp [pruneChildren, same, induction absent]

/-- Only the first entry under `children` counts. -/
theorem pruneChildren_of_some {fields : Fields} {value : Value}
    (found : Fields.get? fields "children" = some value) :
    pruneChildren check fields = pruneChildren check [("children", value)] := by
  induction fields with
  | nil => simp [Fields.get?] at found
  | cons entry rest induction =>
      obtain ⟨key, first⟩ := entry
      by_cases same : key = "children"
      · simp only [Fields.get?, if_pos same, Option.some.injEq] at found
        subst same found
        cases first <;> simp [pruneChildren]
      · simp only [Fields.get?, if_neg same] at found
        rw [← induction found]
        cases first <;> simp [pruneChildren, same]

theorem pruneChildren_of_list {fields : Fields} {items kept : List Value}
    {asked : List String} (found : Fields.get? fields "children" = some (.list items))
    (below : pruneItems check items = .ok (kept, asked)) :
    pruneChildren check fields = .ok (some kept, asked) := by
  rw [pruneChildren_of_some found]
  simp [pruneChildren, below, bind, Except.bind, pure, Except.pure]

theorem pruneItems_cons_iff {item : Value} {rest kept : List Value} {asked : List String} :
    pruneItems check (item :: rest) = .ok (kept, asked) ↔
      ∃ first own others later, prune check item = .ok (first, own) ∧
        pruneItems check rest = .ok (others, later) ∧
        kept = first.toList ++ others ∧ asked = own ++ later := by
  rcases ofItem : prune check item with fault | ⟨first, own⟩
  · simp [pruneItems, ofItem, bind, Except.bind]
  · rcases ofRest : pruneItems check rest with fault | ⟨others, later⟩ <;>
      simp [pruneItems, ofItem, ofRest, bind, Except.bind, pure, Except.pure,
        eq_comm (b := kept), eq_comm (b := asked), and_assoc]

theorem exists_pruneItems {items : List Value}
    (each : ∀ item ∈ items, ∃ left own, prune check item = .ok (left, own)) :
    ∃ kept asked, pruneItems check items = .ok (kept, asked) := by
  induction items with
  | nil => exact ⟨[], [], rfl⟩
  | cons item rest induction =>
      obtain ⟨first, own, ofItem⟩ := each item (by simp)
      obtain ⟨others, later, ofRest⟩ :=
        induction fun other member => each other (by simp [member])
      exact ⟨_, _, pruneItems_cons_iff.mpr
        ⟨first, own, others, later, ofItem, ofRest, rfl, rfl⟩⟩

theorem mem_of_pruneItems {items kept : List Value} {asked : List String} {node : Value}
    (pruned : pruneItems check items = .ok (kept, asked)) (member : node ∈ kept) :
    ∃ item ∈ items, ∃ own, prune check item = .ok (some node, own) := by
  induction items generalizing kept asked with
  | nil =>
      simp only [pruneItems, Except.ok.injEq, Prod.mk.injEq] at pruned
      simp [← pruned.1] at member
  | cons item rest induction =>
      obtain ⟨first, own, others, later, ofItem, ofRest, rfl, rfl⟩ :=
        pruneItems_cons_iff.mp pruned
      rcases List.mem_append.mp member with inFirst | inOthers
      · rw [Option.mem_toList] at inFirst
        subst inFirst
        exact ⟨item, by simp, own, ofItem⟩
      · obtain ⟨source, inRest, answered⟩ := induction ofRest inOthers
        exact ⟨source, by simp [inRest], answered⟩

theorem mem_of_pruneChildren {fields : Fields} {kept : List Value} {asked : List String}
    {node : Value} (pruned : pruneChildren check fields = .ok (some kept, asked))
    (member : node ∈ kept) :
    ∃ child ∈ (Value.object fields).childNodes,
      ∃ own, prune check child = .ok (some node, own) := by
  cases found : Fields.get? fields "children" with
  | none => simp [pruneChildren_of_none found] at pruned
  | some value =>
      rw [pruneChildren_of_some found] at pruned
      cases value with
      | list items =>
          rw [Value.childNodes_of_list found]
          rcases below : pruneItems check items with fault | ⟨others, later⟩
          · simp [pruneChildren, below, bind, Except.bind] at pruned
          · simp only [pruneChildren, if_true, below, bind, Except.bind, pure, Except.pure,
              Except.ok.injEq, Prod.mk.injEq, Option.some.injEq] at pruned
            obtain ⟨rfl, rfl⟩ := pruned
            exact mem_of_pruneItems below member
      | _ =>
          simp only [pruneChildren, if_true] at pruned
          split at pruned <;> simp_all

/-! ### What stays -/

/-- A kept node in the terms of the node it was: its params without the flag, the list of
nodes that stay, and everything else as it was. -/
theorem keep_spec (fields : Fields) (children : Option (List Value)) :
    ∃ kept, keep fields children = .object kept ∧
      Fields.get? kept "params" = some (.object (Fields.erase (paramsOf fields) param)) ∧
      Fields.get? kept "children" =
        (children.map Value.list).or (Fields.get? fields "children") ∧
      (∀ key, key ≠ "params" → key ≠ "children" →
        Fields.get? kept key = Fields.get? fields key) ∧
      ∀ key ∈ Fields.keys kept, key = "params" ∨ key = "children" ∨ key ∈ Fields.keys fields := by
  cases children with
  | none =>
      refine ⟨_, rfl, by simp [Fields.get?_insert], by simp [Fields.get?_insert], ?_, ?_⟩
      · intro key notParams _
        simp [Fields.get?_insert, Ne.symm notParams]
      · intro key member
        rcases Fields.mem_keys_insert.mp member with named | member
        · exact .inl named
        · exact .inr (.inr member)
  | some children =>
      refine ⟨_, rfl, by simp [Fields.get?_insert], by simp [Fields.get?_insert], ?_, ?_⟩
      · intro key notParams notChildren
        simp [Fields.get?_insert, Ne.symm notParams, Ne.symm notChildren]
      · intro key member
        rcases Fields.mem_keys_insert.mp member with named | member
        · exact .inr (.inl named)
        · rcases Fields.mem_keys_insert.mp member with named | member
          · exact .inl named
          · exact .inr (.inr member)

theorem unflagged_keep (fields : Fields) (children : Option (List Value)) :
    Unflagged (keep fields children) := by
  intro entries same
  obtain ⟨kept, shape, params, -⟩ := keep_spec fields children
  rw [shape, Value.object.injEq] at same
  subst same
  simp [paramsOf, params, Fields.keys_erase]

/-- A node with no list of nodes is pruned to one with none. -/
theorem get?_children_of_pruneChildren {fields : Fields} {asked : List String}
    (pruned : pruneChildren check fields = .ok (none, asked)) :
    Fields.get? fields "children" = none := by
  cases found : Fields.get? fields "children" with
  | none => rfl
  | some value =>
      rw [pruneChildren_of_some found] at pruned
      cases value with
      | list items =>
          rcases below : pruneItems check items with fault | ⟨others, later⟩ <;>
            simp [pruneChildren, below, bind, Except.bind, pure, Except.pure] at pruned
      | _ =>
          simp only [pruneChildren, if_true] at pruned
          split at pruned <;> simp_all

theorem childNodes_keep {fields : Fields} {children : Option (List Value)}
    {asked : List String} (pruned : pruneChildren check fields = .ok (children, asked)) :
    (keep fields children).childNodes = children.getD [] := by
  obtain ⟨kept, shape, -, list, -⟩ := keep_spec fields children
  rw [shape]
  cases children with
  | some children => exact Value.childNodes_of_list (by simpa using list)
  | none =>
      rw [get?_children_of_pruneChildren pruned] at list
      exact Value.childNodes_of_none (by simpa using list)

theorem mem_childNodes_keep {fields : Fields} {children : Option (List Value)}
    {asked : List String} {node : Value}
    (pruned : pruneChildren check fields = .ok (children, asked))
    (member : node ∈ (keep fields children).childNodes) :
    ∃ child ∈ (Value.object fields).childNodes,
      ∃ own, prune check child = .ok (some node, own) := by
  rw [childNodes_keep pruned] at member
  cases children with
  | none => simp at member
  | some children => exact mem_of_pruneChildren pruned member

/-- No node of a pruned tree is tied to a flag. -/
theorem prune_unflagged {tree kept : Value} {asked : List String}
    (pruned : prune check tree = .ok (some kept, asked)) :
    ∀ node ∈ kept.nodes, Unflagged node := by
  induction tree using Value.treeInduction generalizing kept asked with
  | node tree induction =>
      cases tree with
      | object fields =>
          obtain ⟨-, own, children, later, -, below, rfl, -⟩ := prune_object_some_iff.mp pruned
          intro node member
          rcases Value.mem_nodes_iff.mp member with rfl | ⟨child, inChildren, deeper⟩
          · exact unflagged_keep fields children
          · obtain ⟨source, inSource, _, answered⟩ := mem_childNodes_keep below inChildren
            exact induction source inSource answered node deeper
      | _ =>
          simp only [prune] at pruned
          split at pruned <;> simp at pruned

/-- What stays of a node is a node. -/
theorem prune_grammar {reading : Node.Reading} {tree kept : Value} {asked : List String}
    (grammar : Node.Grammar reading tree)
    (pruned : prune check tree = .ok (some kept, asked)) : Node.Grammar reading kept := by
  induction grammar generalizing kept asked with
  | @node reading inside fields params type room hasType proper readable keyText hasParams
      childrenList known _ induction =>
      obtain ⟨-, own, children, later, -, below, rfl, -⟩ := prune_object_some_iff.mp pruned
      obtain ⟨entries, shape, ownParams, list, same, keys⟩ := keep_spec fields children
      have nested : ∀ child ∈ (keep fields children).childNodes,
          Node.Grammar inside child := by
        intro child member
        obtain ⟨source, inSource, _, answered⟩ := mem_childNodes_keep below member
        exact induction source inSource answered
      have stillList : ∀ value, Fields.get? entries "children" = some value →
          ∃ items, value = .list items := by
        intro value found
        rw [list] at found
        cases children with
        | none => exact childrenList value (by simpa using found)
        | some children => exact ⟨children, by simpa [eq_comm] using found⟩
      have stillKnown : ∀ key ∈ Fields.keys entries, key ∈ Node.keys := by
        intro key member
        rcases keys key member with rfl | rfl | member
        · decide
        · decide
        · exact known key member
      rw [shape] at nested ⊢
      exact .node room (by rw [same "type" (by decide) (by decide), hasType]) proper readable
        (by rwa [same "key" (by decide) (by decide)]) ownParams stillList stillKnown nested

/-! ### No faults -/

/-- Where every flag can be asked for, every node of the grammar is pruned. -/
theorem prune_total {reading : Node.Reading} {tree : Value}
    (total : ∀ name, ∃ enabled, check name = .ok enabled)
    (grammar : Node.Grammar reading tree) :
    ∃ kept asked, prune check tree = .ok (kept, asked) := by
  induction grammar with
  | @node reading inside fields params type room hasType proper readable keyText hasParams
      childrenList known _ induction =>
      have given : fields ≠ [] := by
        rintro rfl
        simp [Fields.get?] at hasType
      have gated : ∃ stays own, gate check (paramsOf fields) = .ok (stays, own) := by
        cases tied : ofValue? (Fields.getD (paramsOf fields) param) with
        | none => exact ⟨_, _, gate_of_none tied⟩
        | some flag =>
            obtain ⟨enabled, answer⟩ := total flag.name
            exact ⟨_, _, gate_of_some tied answer⟩
      have below : ∃ children later, pruneChildren check fields = .ok (children, later) := by
        cases found : Fields.get? fields "children" with
        | none => exact ⟨_, _, pruneChildren_of_none found⟩
        | some value =>
            obtain ⟨items, rfl⟩ := childrenList value found
            rw [Value.childNodes_of_list found] at induction
            obtain ⟨kept, asked, pruned⟩ := exists_pruneItems induction
            exact ⟨_, _, pruneChildren_of_list found pruned⟩
      obtain ⟨stays, own, gated⟩ := gated
      obtain ⟨children, later, below⟩ := below
      cases stays with
      | true =>
          exact ⟨_, _, prune_object_some_iff.mpr
            ⟨given, own, children, later, gated, below, rfl, rfl⟩⟩
      | false => exact ⟨_, _, prune_object_none_iff.mpr (.inr ⟨given, gated⟩)⟩

/-- A node of the grammar goes exactly when it is tied to a flag whose state it does not
want. -/
theorem prune_none_iff {reading : Node.Reading} {tree : Value} {kept : Option Value}
    {asked : List String} (grammar : Node.Grammar reading tree)
    (pruned : prune check tree = .ok (kept, asked)) :
    kept = none ↔ ∃ flag enabled, ofNode? tree = some flag ∧ check flag.name = .ok enabled ∧
      flag.admits enabled = false := by
  obtain @⟨reading, inside, fields, params, type, room, hasType, -⟩ := grammar
  have given : fields ≠ [] := by
    rintro rfl
    simp [Fields.get?] at hasType
  constructor
  · rintro rfl
    rcases prune_object_none_iff.mp pruned with ⟨empty, -⟩ | ⟨-, gated⟩
    · exact absurd empty given
    · cases tied : ofValue? (Fields.getD (paramsOf fields) param) with
      | none => simp [gate_of_none tied] at gated
      | some flag =>
          rcases answer : check flag.name with fault | enabled
          · simp [gate, tied, answer, bind, Except.bind] at gated
          · simp only [gate_of_some tied answer, Except.ok.injEq, Prod.mk.injEq] at gated
            exact ⟨flag, enabled, tied, answer, gated.1⟩
  · rintro ⟨flag, enabled, tied, answer, refused⟩
    cases kept with
    | none => rfl
    | some kept =>
        obtain ⟨-, own, _, _, gated, -⟩ := prune_object_some_iff.mp pruned
        simp [gate_of_some tied answer, refused] at gated

end PageComposer.Flag
