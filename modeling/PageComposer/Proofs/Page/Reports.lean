import PageComposer.Proofs.Page.Grammar
import PageComposer.Proofs.Value.Sameness

/-!
# Reports on nodes

A value is read as a node exactly when nothing is wrong with it, and the node that is read
holds all its data: `Node.bare` gives the value back.  What is wrong with a value is what is
wrong with its own entries and, child by child, what is wrong with the children.  So a report
changes with a child in one place only.  All this holds whatever stands in for surrogates; a
value one of whose own keys holds a surrogate is reported for nothing else, and its children
are not looked at.
-/

namespace PageComposer

namespace Violation

theorem pathText_under (step : String) (violation : Violation) :
    (violation.under step).pathText = "/" ++ step ++ violation.pathText := by
  simp [under, pathText, String.append_assoc]

/-- A violation inside a child, as the node above reports it. -/
def inChild (index : Nat) (violation : Violation) : Violation :=
  (violation.under (toString index)).under "children"

theorem pathText_inChild (index : Nat) (violation : Violation) :
    (violation.inChild index).pathText =
      "/children/" ++ toString index ++ violation.pathText := by
  have joined : ("/children/" : String) = "/" ++ "children" ++ "/" := rfl
  simp only [inChild, pathText_under, joined, String.append_assoc]

end Violation

namespace Node

/-- The reading that has room for any number of records, one in another. -/
def Reading.unlimited (standIns : Option Text.StandIns) : Reading := ⟨none, standIns⟩

mutual

/-- A node with the entries it has. -/
def bare : Node → Value
  | .node type key params children =>
      .object ([("type", .str type)] ++ (key.map fun text => ("key", .str text)).toList
        ++ [("params", .object params)] ++ bareChildren children)

def bareChildren : Option (List Node) → Fields
  | none => []
  | some children => [("children", .list (bareItems children))]

def bareItems : List Node → List Value
  | [] => []
  | child :: rest => child.bare :: bareItems rest

end

variable {reading : Reading}

/-! ### What is wrong with the entries -/

theorem typeViolations_eq_nil_iff {fields : Fields} :
    typeViolations reading fields = [] ↔
      ∃ type, Fields.get? fields "type" = some (.str type) ∧ type ≠ "" ∧
        reading.isBroken type = false := by
  unfold typeViolations
  split
  · rename_i absent
    simp [absent]
  · rename_i text found
    by_cases empty : text = "" <;> cases broken : reading.isBroken text <;>
      simp [found, empty, broken]
  · rename_i value notText found
    simp only [List.cons_ne_nil, false_iff]
    rintro ⟨type, hasType, -⟩
    rw [found, Option.some.injEq] at hasType
    exact notText type hasType

theorem paramsViolations_eq_nil_iff {fields : Fields} :
    paramsViolations fields = [] ↔
      ∃ params, Fields.get? fields "params" = some (.object params) := by
  unfold paramsViolations
  cases found : Fields.get? fields "params" with
  | none => simp
  | some value => cases value <;> simp

theorem itemViolations_eq_nil_iff {start : Nat} {items : List Value} :
    itemViolations reading start items = [] ↔ ∀ item ∈ items, violations reading item = [] := by
  induction items generalizing start with
  | nil => simp [itemViolations]
  | cons item rest induction => simp [itemViolations, induction]

theorem childrenViolations_eq (reading : Reading) (fields : Fields) :
    childrenViolations reading fields =
      match Fields.get? fields "children" with
      | none => []
      | some (.list items) => itemViolations reading 0 items
      | some .null => [.here .nullChildren]
      | some _ => [.here .notList] := by
  induction fields with
  | nil => rfl
  | cons entry rest induction =>
      obtain ⟨key, value⟩ := entry
      by_cases same : key = "children" <;> cases value <;>
        simp [childrenViolations, Fields.get?, same, induction]

theorem childrenViolations_eq_nil_iff {fields : Fields} :
    childrenViolations reading fields = [] ↔
      (∀ value, Fields.get? fields "children" = some value → ∃ items, value = .list items) ∧
        ∀ child ∈ (Value.object fields).childNodes, violations reading child = [] := by
  rw [childrenViolations_eq]
  cases found : Fields.get? fields "children" with
  | none => simp [Value.childNodes, found]
  | some value =>
      cases value <;> simp [Value.childNodes, found, itemViolations_eq_nil_iff]

/-! ### Nothing is wrong with nodes and with nodes only -/

theorem violations_object_of_room {inside : Reading} {fields : Fields}
    (readable : hasUnreadableKey reading fields = false)
    (room : reading.inside? = some inside) :
    violations reading (.object fields) =
      (typeViolations reading fields).map (.under "type") ++ optionalTextViolations fields "key"
        ++ (paramsViolations fields).map (.under "params")
        ++ (childrenViolations inside fields).map (.under "children")
        ++ unknownKeys keys fields := by
  simp [violations, room, readable]

theorem violations_object_of_unreadable {inside : Reading} {fields : Fields}
    (unreadable : hasUnreadableKey reading fields = true)
    (room : reading.inside? = some inside) :
    violations reading (.object fields) = [.here .notUnicode] := by
  simp [violations, room, unreadable]

/-- A value with nothing wrong is a node. -/
theorem violations_eq_nil_iff {value : Value} :
    violations reading value = [] ↔ Grammar reading value := by
  induction value using Value.treeInduction generalizing reading with
  | node tree below =>
      cases tree with
      | object fields =>
          cases room : reading.inside? with
          | none =>
              simp only [violations, room, List.cons_ne_nil, false_iff]
              rintro ⟨roomToo, -⟩
              simp [room] at roomToo
          | some inside =>
              cases readable : hasUnreadableKey reading fields with
              | true =>
                  rw [violations_object_of_unreadable readable room]
                  refine iff_of_false (List.cons_ne_nil _ _) ?_
                  rintro ⟨-, -, -, -, -, -, -, known, -⟩
                  simp [hasUnreadableKey_of_node reading known] at readable
              | false =>
                  rw [violations_object_of_room readable room]
                  simp only [List.append_eq_nil_iff, List.map_eq_nil_iff,
                    typeViolations_eq_nil_iff, optionalTextViolations_eq_nil_iff,
                    paramsViolations_eq_nil_iff, childrenViolations_eq_nil_iff,
                    ← List.isEmpty_iff (l := unknownKeys keys fields), unknownKeys_isEmpty_iff]
                  constructor
                  · rintro ⟨⟨⟨⟨⟨type, hasType, proper, sound⟩, keyText⟩, params, hasParams⟩,
                      childrenList, nested⟩, known⟩
                    exact .node room hasType proper sound keyText hasParams childrenList known
                      fun child member => (below child member).mp (nested child member)
                  · rintro ⟨roomToo, hasType, proper, sound, keyText, hasParams, childrenList,
                      known, nested⟩
                    obtain rfl := Option.some.inj (room.symm.trans roomToo)
                    exact ⟨⟨⟨⟨⟨_, hasType, proper, sound⟩, keyText⟩, _, hasParams⟩, childrenList,
                      fun child member => (below child member).mpr (nested child member)⟩, known⟩
      | _ =>
          simp only [violations, List.cons_ne_nil, false_iff]
          rintro ⟨⟩

/-! ### A node holds all the data of the value that was read -/

theorem bareItems_eq (nodes : List Node) : bareItems nodes = nodes.map bare := by
  induction nodes with
  | nil => rfl
  | cons node rest induction => simp [bareItems, induction]

/-- The entries of a node, looked up by key. -/
theorem get?_bare (type : String) (text : Option String) (params : Fields)
    (children : Option (List Node)) :
    ∃ entries, bare (.node type text params children) = .object entries ∧
      (Fields.keys entries).Nodup ∧
      Fields.get? entries "type" = some (.str type) ∧
      Fields.get? entries "key" = text.map .str ∧
      Fields.get? entries "params" = some (.object params) ∧
      Fields.get? entries "children" = children.map (fun nodes => .list (nodes.map bare)) ∧
      ∀ key, key ∉ keys → Fields.get? entries key = none := by
  refine ⟨_, by rw [bare], ?_⟩
  cases text <;> cases children <;>
    simp +contextual [Fields.keys, Fields.get?, keys, bareChildren, bareItems_eq, eq_comm]

theorem optionalText?_eq_some {fields : Fields} {key : String} {text : Option String}
    (accepted : optionalText? fields key = some text) :
    Fields.get? fields key = text.map .str := by
  unfold optionalText? at accepted
  split at accepted <;> cases accepted <;> assumption

/-- The values that a read node was made of. -/
theorem of_ofValue? {fields : Fields} {node : Node}
    (accepted : ofValue? reading (.object fields) = some node) :
    ∃ inside type text params children, node = .node type text params children ∧
      Fields.get? fields "type" = some (.str type) ∧
      Fields.get? fields "key" = text.map .str ∧
      Fields.get? fields "params" = some (.object params) ∧
      childrenOf? inside fields = some children ∧ ∀ key ∈ Fields.keys fields, key ∈ keys := by
  simp only [ofValue?, Option.bind_eq_bind, Option.bind_eq_some_iff] at accepted
  obtain ⟨inside, room, named, hasType, accepted⟩ := accepted
  split at accepted
  · rename_i type
    simp only [Option.bind_eq_some_iff] at accepted
    obtain ⟨text, keyText, given, hasParams, accepted⟩ := accepted
    split at accepted
    · rename_i params
      simp only [Option.bind_eq_some_iff, Option.ite_none_left_eq_some, Bool.not_eq_true,
        Bool.or_eq_false_iff, Bool.not_eq_false', Option.some.injEq] at accepted
      obtain ⟨children, childrenList, ⟨-, known⟩, rfl⟩ := accepted
      exact ⟨inside, type, text, params, children, rfl, hasType, optionalText?_eq_some keyText,
        hasParams, childrenList, unknownKeys_isEmpty_iff.mp known⟩
    · simp at accepted
  · simp at accepted

theorem sameItems_of_itemsOf? {items : List Value} {nodes : List Node}
    (each : ∀ item ∈ items, ∀ node, ofValue? reading item = some node →
      node.bare.exactlySame item = true)
    (accepted : itemsOf? reading items = some nodes) :
    List.Forall₂ (fun left right => Value.exactlySame left right = true) (nodes.map bare)
      items := by
  induction items generalizing nodes with
  | nil =>
      simp only [itemsOf?, Option.some.injEq] at accepted
      simp [← accepted]
  | cons item rest induction =>
      simp only [itemsOf?, Option.bind_eq_bind, Option.bind_eq_some_iff, Option.pure_def,
        Option.some.injEq] at accepted
      obtain ⟨node, first, others, later, rfl⟩ := accepted
      exact .cons (each item (by simp) node first)
        (induction (fun item member => each item (by simp [member])) later)

theorem sameChildren_of_childrenOf? {fields : Fields} {children : Option (List Node)}
    (each : ∀ child ∈ (Value.object fields).childNodes, ∀ node,
      ofValue? reading child = some node → node.bare.exactlySame child = true)
    (accepted : childrenOf? reading fields = some children) :
    Option.Rel (fun left right => Value.exactlySame left right = true)
      (children.map fun nodes => .list (nodes.map bare)) (Fields.get? fields "children") := by
  rw [childrenOf?_eq] at accepted
  cases found : Fields.get? fields "children" with
  | none =>
      simp only [found, Option.some.injEq] at accepted
      subst accepted
      exact .none
  | some value =>
      cases value with
      | list items =>
          simp only [found, Option.map_eq_some_iff] at accepted
          obtain ⟨nodes, itemsRead, rfl⟩ := accepted
          rw [Value.childNodes_of_list found] at each
          exact .some (Value.sameUnder_list_iff.mpr (sameItems_of_itemsOf? each itemsRead))
      | _ => simp [found] at accepted

/-- Reading a value as a node loses nothing. -/
theorem bare_exactlySame {value : Value} {node : Node} (keyed : value.WellKeyed)
    (accepted : ofValue? reading value = some node) : node.bare.exactlySame value = true := by
  induction value using Value.treeInduction generalizing reading node with
  | node tree below =>
      cases tree with
      | object fields =>
          obtain ⟨inside, type, text, params, children, rfl, hasType, keyText, hasParams,
            childrenRead, known⟩ := of_ofValue? accepted
          obtain ⟨distinct, members⟩ := Value.wellKeyed_object_iff.mp keyed
          obtain ⟨entries, shape, distinctToo, bareType, bareText, bareParams, bareList, others⟩ :=
            get?_bare type text params children
          have same {key : String} {value : Value} (found : Fields.get? fields key = some value) :
              value.exactlySame value = true :=
            Value.sameUnder_refl (members _ (Fields.mem_of_get? found))
          have nested : ∀ child ∈ (Value.object fields).childNodes, ∀ node,
              ofValue? inside child = some node → node.bare.exactlySame child = true :=
            fun child member node => below child member (keyed.of_mem_childNodes member)
          rw [shape, Value.exactlySame, Value.sameUnder_object_iff distinctToo distinct]
          intro key
          -- Neither has any other key than the four known ones.
          by_cases named : key ∈ keys
          · simp only [keys, List.mem_cons, List.not_mem_nil, or_false] at named
            rcases named with rfl | rfl | rfl | rfl
            · rw [bareType, hasType]
              exact .some (same hasType)
            · rw [bareText, keyText]
              cases text with
              | none => exact .none
              | some text => exact .some (same keyText)
            · rw [bareParams, hasParams]
              exact .some (same hasParams)
            · rw [bareList]
              exact sameChildren_of_childrenOf? nested childrenRead
          · have absent : Fields.get? fields key = none :=
              Fields.get?_eq_none_iff.mpr fun member => named (known key member)
            rw [others key named, absent]
            exact .none
      | _ => simp [ofValue?] at accepted

/-! ### One child replaced by another -/

/-- What is wrong with the items of a list is told item by item. -/
theorem itemViolations_set (reading : Reading) (start : Nat) {index : Nat} {items : List Value}
    {child : Value} (found : items[index]? = some child) :
    ∃ before behind, ∀ other,
      itemViolations reading start (items.set index other) =
        before ++ (violations reading other).map (.under (toString (start + index))) ++ behind := by
  induction items generalizing start index with
  | nil => simp at found
  | cons item rest induction =>
      cases index with
      | zero => exact ⟨[], itemViolations reading (start + 1) rest, by simp [itemViolations]⟩
      | succ index =>
          obtain ⟨before, behind, split⟩ := induction (start + 1) found
          refine ⟨(violations reading item).map (.under (toString start)) ++ before, behind, ?_⟩
          intro other
          have reached : start + 1 + index = start + (index + 1) := by omega
          rw [List.set_cons_succ, itemViolations, split, reached]
          simp

/-- The entries with another list of children. -/
def withChildren (fields : Fields) (items : List Value) : Fields :=
  Fields.insert fields "children" (.list items)

/-- Other children leave the keys as they are. -/
theorem hasUnreadableKey_withChildren {fields : Fields} {children : Value}
    (listed : Fields.get? fields "children" = some children) (items : List Value) :
    hasUnreadableKey reading (withChildren fields items) = hasUnreadableKey reading fields := by
  have same : Fields.keys (withChildren fields items) = Fields.keys fields := by
    rw [withChildren, Fields.keys_insert, if_pos (Fields.mem_keys_of_get? listed)]
  simpa [hasUnreadableKey, Fields.keys, List.any_map, Function.comp_def] using
    congrArg (fun keys => keys.any reading.isBroken) same

theorem violations_set {inside : Reading} {fields : Fields} {items : List Value} {index : Nat}
    {child : Value} (readable : hasUnreadableKey reading fields = false)
    (room : reading.inside? = some inside)
    (listed : Fields.get? fields "children" = some (.list items))
    (found : items[index]? = some child) :
    ∃ before behind, ∀ other,
      violations reading (.object (withChildren fields (items.set index other))) =
        before ++ (violations inside other).map (.inChild index) ++ behind := by
  obtain ⟨before, behind, split⟩ := itemViolations_set inside 0 found
  refine ⟨(typeViolations reading fields).map (.under "type")
    ++ optionalTextViolations fields "key" ++ (paramsViolations fields).map (.under "params")
    ++ before.map (.under "children"),
    behind.map (.under "children") ++ unknownKeys keys fields, ?_⟩
  intro other
  rw [violations_object_of_room (by rw [hasUnreadableKey_withChildren listed, readable]) room,
    childrenViolations_eq, withChildren, Fields.get?_insert, if_pos rfl]
  simp only [split, Nat.zero_add]
  -- The other entries are what they were, and so are the keys.
  simp [typeViolations, optionalTextViolations, paramsViolations, unknownKeys,
    Fields.get?_insert, Fields.keys_insert, Fields.mem_keys_of_get? listed, Violation.inChild,
    Function.comp_def]

/-- Without a limit on the depth, and whatever stands in for surrogates, reading accepts the
nodes of the grammar and nothing else, and gives back all their data.  A value that is refused
is reported with everything that is wrong with it, and once one of its children is replaced by
a node, with everything but what was wrong with that child; only a value one of whose own keys
holds a surrogate is reported for that alone, and so is it with other children. -/
theorem validateBy_unlimited (standIns : Option Text.StandIns) {value : Value}
    (keyed : value.WellKeyed) :
    ((∃ node, validateBy (.unlimited standIns) value = .ok node) ↔
        Grammar (.unlimited standIns) value) ∧
      (∀ node, validateBy (.unlimited standIns) value = .ok node →
        node.bare.exactlySame value = true) ∧
      (∀ problem, validateBy (.unlimited standIns) value = .error problem →
        problem.name = "ValidationError" ∧ problem.code.text = "DSL_INVALID_NODE" ∧
          problem.details =
            .list ((violations (.unlimited standIns) value).map Violation.toValue)) ∧
      (violations (.unlimited standIns) value = [] ↔ Grammar (.unlimited standIns) value) ∧
      ∀ fields items index child, value = .object fields →
        Fields.get? fields "children" = some (.list items) → items[index]? = some child →
        (hasUnreadableKey (.unlimited standIns) fields = false →
          ∃ before behind,
            violations (.unlimited standIns) value =
              before ++ (violations (.unlimited standIns) child).map (.inChild index) ++ behind ∧
            (∀ valid, Grammar (.unlimited standIns) valid →
              violations (.unlimited standIns)
                  (.object (withChildren fields (items.set index valid))) = before ++ behind) ∧
            ∀ violation : Violation,
              (violation.inChild index).complaint = violation.complaint ∧
                (violation.inChild index).pathText =
                  "/children/" ++ toString index ++ violation.pathText) ∧
        (hasUnreadableKey (.unlimited standIns) fields = true →
          violations (.unlimited standIns) value = [.here .notUnicode] ∧
            ∀ other, violations (.unlimited standIns)
              (.object (withChildren fields (items.set index other))) = [.here .notUnicode]) := by
  refine ⟨validateBy_ok_iff, ?lossless, ?reported, violations_eq_nil_iff, ?located⟩
  case lossless =>
    intro node accepted
    unfold validateBy at accepted
    split at accepted
    · rename_i tree read
      cases accepted
      exact bare_exactlySame keyed read
    · cases accepted
  case reported =>
    intro problem refused
    unfold validateBy at refused
    split at refused
    · cases refused
    · cases refused
      refine ⟨rfl, rfl, ?_⟩
      cases listed : (violations (.unlimited standIns) value).map Violation.toValue <;>
        simp [invalid, Problem.details, Value.orElse, Value.truthy, listed]
  case located =>
    rintro fields items index child rfl listed found
    constructor
    · intro readable
      obtain ⟨before, behind, split⟩ := violations_set readable rfl listed found
      have unchanged : withChildren fields (items.set index child) = fields := by
        obtain ⟨inRange, rfl⟩ := List.getElem?_eq_some_iff.mp found
        rw [List.set_getElem_self]
        exact Fields.insert_of_get? listed
      refine ⟨before, behind, ?_, ?_, ?_⟩
      · rw [← split child, unchanged]
      · intro valid node
        rw [split valid, violations_eq_nil_iff.mpr node, List.map_nil, List.append_nil]
      · exact fun violation => ⟨rfl, Violation.pathText_inChild index violation⟩
    · intro unreadable
      refine ⟨violations_object_of_unreadable unreadable rfl, fun other => ?_⟩
      exact violations_object_of_unreadable
        (by rw [hasUnreadableKey_withChildren listed, unreadable]) rfl

/-- A row without a type and with an unknown key, whose first child has no params and an
unknown key. -/
def faultyRow : Value :=
  .object [("style", .null), ("params", .object []),
    ("children", .list [
      .object [("type", .str "Text"), ("colour", .str "red")],
      .object [("type", .str "Text"), ("params", .object [])]])]

theorem validateBy_unlimited_faultyRow :
    faultyRow.WellKeyed ∧ ¬ Grammar (.unlimited none) faultyRow ∧
      ∃ before behind,
        violations (.unlimited none) faultyRow =
          before ++ [⟨["children", "0", "params"], .missing⟩,
            ⟨["children", "0", "colour"], .unknownKey⟩] ++ behind ∧
        before ++ behind = [⟨["type"], .missing⟩, ⟨["style"], .unknownKey⟩] := by
  have keyed : faultyRow.WellKeyed := by
    have text (text : String) : (Value.str text).WellKeyed := .scalar rfl
    have absent : Value.null.WellKeyed := .scalar rfl
    simp [faultyRow, Value.wellKeyed_object_iff, Value.wellKeyed_list_iff, Fields.keys, text,
      absent]
  obtain ⟨-, -, -, sound, located⟩ := validateBy_unlimited none keyed
  have plain : Grammar (.unlimited none)
      (.object [("type", .str "Text"), ("params", .object [])]) :=
    violations_eq_nil_iff.mp (by decide)
  obtain ⟨before, behind, whole, rest, -⟩ := (located _ _ 0 _ rfl rfl rfl).1 rfl
  refine ⟨keyed, ?_, before, behind, whole, ?_⟩
  · rw [← sound]
    decide
  · rw [← rest _ plain]
    decide

/-- A surrogate on its own. -/
def loneSurrogate : String := String.singleton (Text.StandIns.earliest.charOf 0xD800)

/-- A box with a surrogate for its type. -/
def brokenBox : Value := .object [("type", .str loneSurrogate), ("params", .object [])]

/-- A value with a child that is no node, and with a surrogate for a key. -/
def brokenRow : Value := .object [(loneSurrogate, .null), ("children", .list [.int 5])]

/-- What is a node where every text that is not empty is a type is refused when its type is a
surrogate.  And where a key is a surrogate nothing else is reported, so that what is wrong with
a child is not. -/
theorem brokenBox_refused :
    (Grammar (.unlimited none) brokenBox ∧
      ¬ ∃ node, validateBy (.unlimited (some .earliest)) brokenBox = .ok node) ∧
      violations (.unlimited (some .earliest)) (.int 5) = [.here (.notRecord "Node")] ∧
      violations (.unlimited (some .earliest)) brokenRow = [.here .notUnicode] ∧
      ¬ ∃ before behind,
        violations (.unlimited (some .earliest)) brokenRow =
          before ++ (violations (.unlimited (some .earliest)) (.int 5)).map (.inChild 0)
            ++ behind := by
  have report : violations (.unlimited (some .earliest)) brokenRow = [.here .notUnicode] := by
    decide
  refine ⟨⟨violations_eq_nil_iff.mp (by decide), ?_⟩, rfl, report, ?_⟩
  · rw [validateBy_ok_iff, ← violations_eq_nil_iff]
    decide
  · rintro ⟨before, behind, whole⟩
    have child : (Violation.here (.notRecord "Node")).inChild 0 ∈
        violations (.unlimited (some .earliest)) brokenRow := by
      rw [whole]
      exact List.mem_append_left _ (List.mem_append_right _ (List.mem_singleton.mpr rfl))
    rw [report] at child
    exact absurd child (by decide)

end Node

end PageComposer
