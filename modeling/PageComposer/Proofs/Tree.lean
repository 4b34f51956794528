import PageComposer.Value

/-!
# Trees of nodes

Pruning, checking and rendering all walk a value in the same way: the items of the
list under `children` are the nodes below it.  `Value.childNodes` names them,
`Value.nodes` lists a whole tree in document order, and `Value.forestInduction`
is the induction that follows such a walk.
-/

namespace PageComposer

namespace Fields

theorem mem_of_get? {fields : Fields} {key : String} {value : Value}
    (found : get? fields key = some value) : (key, value) ∈ fields := by
  induction fields with
  | nil => simp [get?] at found
  | cons entry rest induction =>
      obtain ⟨name, first⟩ := entry
      by_cases same : name = key
      · simp only [get?, if_pos same, Option.some.injEq] at found
        simp [same, found]
      · simp only [get?, if_neg same] at found
        exact List.mem_cons_of_mem _ (induction found)

theorem get?_eq_none_iff {fields : Fields} {key : String} :
    get? fields key = none ↔ key ∉ keys fields := by
  induction fields with
  | nil => simp [get?, keys]
  | cons entry rest induction =>
      obtain ⟨name, first⟩ := entry
      by_cases same : name = key
      · simp [get?, keys, same]
      · simp only [keys] at induction
        simp [get?, keys, same, Ne.symm same, induction]

theorem mem_keys_insert {fields : Fields} {key other : String} {value : Value} :
    other ∈ keys (insert fields key value) ↔ other = key ∨ other ∈ keys fields := by
  rw [← Decidable.not_iff_not, not_or, ← get?_eq_none_iff, ← get?_eq_none_iff, get?_insert]
  by_cases same : key = other
  · simp [same]
  · simp [same, Ne.symm same]

theorem keys_erase (fields : Fields) (key : String) :
    keys (erase fields key) = (keys fields).filter (· ≠ key) := by
  simp [keys, erase, List.filter_map, Function.comp_def]

theorem keys_insert (fields : Fields) (key : String) (value : Value) :
    keys (insert fields key value) =
      if key ∈ keys fields then keys fields else keys fields ++ [key] := by
  induction fields with
  | nil => simp [insert, keys]
  | cons entry rest induction =>
      obtain ⟨name, first⟩ := entry
      simp only [keys] at induction
      by_cases same : name = key
      · simp [insert, keys, same]
      · by_cases later : key ∈ rest.map Prod.fst <;>
          simp [insert, keys, same, Ne.symm same, later, induction]

theorem mem_keys_of_get? {fields : Fields} {key : String} {value : Value}
    (found : get? fields key = some value) : key ∈ keys fields :=
  List.mem_map_of_mem (mem_of_get? found)

/-- Of two writes under one key the second counts. -/
theorem insert_insert (fields : Fields) (key : String) (first second : Value) :
    insert (insert fields key first) key second = insert fields key second := by
  induction fields with
  | nil => simp [insert]
  | cons entry rest induction =>
      obtain ⟨name, old⟩ := entry
      by_cases same : name = key
      · simp [insert, same]
      · simp [insert, same, induction]

/-- A write under a key that is there can be made before or after any other. -/
theorem insert_comm {fields : Fields} {key other : String} (there : key ∈ keys fields)
    (different : key ≠ other) (value new : Value) :
    insert (insert fields key value) other new = insert (insert fields other new) key value := by
  induction fields with
  | nil => simp [keys] at there
  | cons entry rest induction =>
      obtain ⟨name, old⟩ := entry
      by_cases same : name = key
      · subst same
        simp [insert, different]
      · have later : key ∈ keys rest := by
          simpa [keys, Ne.symm same] using there
        by_cases sameOther : name = other
        · simp [insert, sameOther, different.symm]
        · simp [insert, same, sameOther, induction later]

/-- To write what is there already changes nothing. -/
theorem insert_of_get? {fields : Fields} {key : String} {value : Value}
    (found : get? fields key = some value) : insert fields key value = fields := by
  induction fields with
  | nil => simp [get?] at found
  | cons entry rest induction =>
      obtain ⟨name, first⟩ := entry
      by_cases same : name = key
      · simp only [get?, if_pos same, Option.some.injEq] at found
        simp [insert, same, found]
      · simp only [get?, if_neg same] at found
        simp [insert, same, induction found]

theorem insert_ne_nil {fields : Fields} {key : String} {value : Value} :
    insert fields key value ≠ [] := by
  intro empty
  have there : key ∈ keys (insert fields key value) := mem_keys_insert.mpr (.inl rfl)
  simp [empty, keys] at there

theorem erase_of_not_mem {fields : Fields} {key : String} (missing : key ∉ keys fields) :
    erase fields key = fields := by
  rw [erase, List.filter_eq_self]
  rintro ⟨name, value⟩ member
  have among : name ∈ keys fields := List.mem_map_of_mem member
  simp only [decide_eq_true_eq]
  rintro rfl
  exact missing among

end Fields

namespace Value

def childNodes : Value → List Value
  | .object fields =>
      match Fields.get? fields "children" with
      | some (.list items) => items
      | _ => []
  | _ => []

theorem childNodes_of_list {fields : Fields} {items : List Value}
    (found : Fields.get? fields "children" = some (.list items)) :
    (Value.object fields).childNodes = items := by
  simp [childNodes, found]

theorem childNodes_of_none {fields : Fields}
    (absent : Fields.get? fields "children" = none) :
    (Value.object fields).childNodes = [] := by
  simp [childNodes, absent]

theorem sizeOf_lt_of_mem_childNodes {tree child : Value}
    (member : child ∈ tree.childNodes) : sizeOf child < sizeOf tree := by
  cases tree with
  | object fields =>
      simp only [childNodes] at member
      split at member
      · rename_i items found
        have entrySize := List.sizeOf_lt_of_mem (Fields.mem_of_get? found)
        have itemSize := List.sizeOf_lt_of_mem member
        simp only [Prod.mk.sizeOf_spec, Value.list.sizeOf_spec] at entrySize
        simp only [Value.object.sizeOf_spec]
        omega
      · simp at member
  | _ => simp [childNodes] at member

/-- To prove something of every tree, prove it of a node from the nodes below it. -/
@[elab_as_elim]
theorem treeInduction {motive : Value → Prop}
    (node : ∀ tree, (∀ child ∈ tree.childNodes, motive child) → motive tree)
    (tree : Value) : motive tree :=
  node tree fun child _member => treeInduction node child
termination_by sizeOf tree
decreasing_by exact sizeOf_lt_of_mem_childNodes _member

/-- To prove something of every forest, prove it of a first tree and the others from
the forest below that tree and from the others. -/
@[elab_as_elim]
theorem forestInduction {motive : List Value → Prop} (nil : motive [])
    (cons : ∀ tree rest, motive tree.childNodes → motive rest → motive (tree :: rest))
    (forest : List Value) : motive forest := by
  have below : ∀ tree : Value, motive tree.childNodes := by
    intro tree
    induction tree using treeInduction with
    | node tree induction =>
        generalize tree.childNodes = children at induction
        induction children with
        | nil => exact nil
        | cons child others tail =>
            exact cons child others (induction child (by simp))
              (tail fun other member => induction other (by simp [member]))
  induction forest with
  | nil => exact nil
  | cons tree rest tail => exact cons tree rest (below tree) tail

/-- All nodes of a tree, each before the nodes below it and those in their order. -/
def nodes (tree : Value) : List Value :=
  tree :: tree.childNodes.attach.flatMap fun child => nodes child.1
termination_by sizeOf tree
decreasing_by exact sizeOf_lt_of_mem_childNodes child.2

theorem nodes_eq (tree : Value) : tree.nodes = tree :: tree.childNodes.flatMap nodes := by
  rw [nodes, List.flatMap_subtype (g := nodes) (by intros; rfl)]
  simp

theorem mem_nodes_iff {tree node : Value} :
    node ∈ tree.nodes ↔ node = tree ∨ ∃ child ∈ tree.childNodes, node ∈ child.nodes := by
  rw [nodes_eq]
  simp

/-- The type that a node names, null if it names none. -/
def typeOf : Value → Value
  | .object fields => Fields.getD fields "type"
  | _ => .null

end Value

end PageComposer
