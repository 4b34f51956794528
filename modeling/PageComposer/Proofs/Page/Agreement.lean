import PageComposer.Proofs.Page.Reports
import PageComposer.Proofs.Paths

/-!
# What pages and their roots are reported for

The check of a page says of its root what the check of nodes says of it, in one piece and in
the same order, but has room for one record fewer, since the page is a record itself.  The two
reports are related by `Node.Deepens`: where the report on the page stops, 254 nodes below the
root, the report on the root goes one record further.  Only a page one of whose own keys holds a
surrogate is reported for that alone.
-/

namespace PageComposer

/-- The details of a refused document are its violations, also when there are none. -/
theorem Problem.details_invalidDocument (message : String) (report : List Value)
    (code : ErrorCode) :
    (Problem.invalidDocument message (.list report) code).details = .list report := by
  cases report <;> rfl

/-- A violation inside the node that a path leads to, as the tree reports it. -/
def Violation.inPlace : List Nat → Violation → Violation
  | [], violation => violation
  | index :: path, violation => (violation.inPlace path).inChild index

namespace Node

/-- Two reports on one tree, the second of which looks one record further down: it says the
same, but where the first one stops it says what is wrong with the value that stands there. -/
inductive Deepens (standIns : Option Text.StandIns) (tree : Value) (depth : Nat) :
    List Violation → List Violation → Prop where
  | nil : Deepens standIns tree depth [] []
  | same {violation : Violation} {short long : List Violation}
      (other : violation.complaint ≠ .tooDeep) (rest : Deepens standIns tree depth short long) :
      Deepens standIns tree depth (violation :: short) (violation :: long)
  | further {path : List Nat} {value : Value} {short long : List Violation}
      (far : path.length = depth) (stands : tree.at? path = some value)
      (rest : Deepens standIns tree depth short long) :
      Deepens standIns tree depth ((Violation.here .tooDeep).inPlace path :: short)
        ((violations ⟨some 1, standIns⟩ value).map (.inPlace path) ++ long)

/-- No value on the way along a path, its end apart, has a key with a surrogate. -/
def ReadableAlong (standIns : Option Text.StandIns) (tree : Value) : List Nat → Prop
  | [] => True
  | index :: path =>
      (∀ fields, tree = .object fields →
        hasUnreadableKey (.ofDocumentsWith standIns) fields = false) ∧
      ∀ child, tree.childNodes[index]? = some child → ReadableAlong standIns child path

namespace Deepens

variable {standIns : Option Text.StandIns} {tree : Value} {depth : Nat}
  {short long : List Violation}

theorem of_shallow {report : List Violation}
    (shallow : ∀ violation ∈ report, violation.complaint ≠ .tooDeep) :
    Deepens standIns tree depth report report := by
  induction report with
  | nil => exact .nil
  | cons violation rest induction =>
      exact .same (shallow violation (by simp))
        (induction fun other member => shallow other (by simp [member]))

theorem append {shortToo longToo : List Violation} (first : Deepens standIns tree depth short long)
    (second : Deepens standIns tree depth shortToo longToo) :
    Deepens standIns tree depth (short ++ shortToo) (long ++ longToo) := by
  induction first with
  | nil => exact second
  | same other _ induction => exact .same other induction
  | further far stands _ induction =>
      rw [List.cons_append, List.append_assoc]
      exact .further far stands induction

/-- Reports on a child are such reports on the tree. -/
theorem inChild {child : Value} {index : Nat} (deepens : Deepens standIns child depth short long)
    (found : tree.childNodes[index]? = some child) :
    Deepens standIns tree (depth + 1) (short.map (.inChild index)) (long.map (.inChild index)) := by
  induction deepens with
  | nil => exact .nil
  | same other _ induction => exact .same other induction
  | @further path value short long far stands _ induction =>
      have reached : tree.at? (index :: path) = some value := by
        rw [Value.at?_cons path found, stands]
      rw [List.map_cons, List.map_append, List.map_map]
      exact .further (by rw [List.length_cons, far]) reached induction

/-- Where no value stands so far down, there is nothing to go into. -/
theorem eq_of_shallow (deepens : Deepens standIns tree depth short long)
    (nothing : ∀ path : List Nat, path.length = depth → tree.at? path = none) :
    short = long := by
  induction deepens with
  | nil => rfl
  | same _ _ induction => rw [induction]
  | further far stands => simp [nothing _ far] at stands

theorem long_eq_nil (deepens : Deepens standIns tree depth short long) (empty : short = []) :
    long = [] := by
  cases deepens with
  | nil => rfl
  | same | further => simp at empty

end Deepens

/-! ### A report with more room goes further -/

theorem typeViolations_shallow (reading : Reading) (fields : Fields) :
    ∀ violation ∈ typeViolations reading fields, violation.complaint ≠ .tooDeep := by
  unfold typeViolations
  repeat' split
  all_goals simp [Violation.here]

theorem optionalTextViolations_shallow (fields : Fields) (key : String) :
    ∀ violation ∈ optionalTextViolations fields key, violation.complaint ≠ .tooDeep := by
  unfold optionalTextViolations textViolations
  repeat' split
  all_goals simp [Violation.here, Violation.under]

theorem paramsViolations_shallow (fields : Fields) :
    ∀ violation ∈ paramsViolations fields, violation.complaint ≠ .tooDeep := by
  unfold paramsViolations
  repeat' split
  all_goals simp [Violation.here]

theorem unknownKeys_shallow (known : List String) (fields : Fields) :
    ∀ violation ∈ unknownKeys known fields, violation.complaint ≠ .tooDeep := by
  simp only [unknownKeys, List.mem_map]
  rintro _ ⟨key, -, rfl⟩
  simp

variable {standIns : Option Text.StandIns}

/-- The items of a list of children from an index on. -/
theorem itemViolations_deepens {tree : Value} {depth start : Nat} {items : List Value}
    (among : tree.childNodes.drop start = items)
    (each : ∀ item ∈ items, Deepens standIns item depth (violations ⟨some depth, standIns⟩ item)
      (violations ⟨some (depth + 1), standIns⟩ item)) :
    Deepens standIns tree (depth + 1)
      ((itemViolations ⟨some depth, standIns⟩ start items).map (.under "children"))
      ((itemViolations ⟨some (depth + 1), standIns⟩ start items).map (.under "children")) := by
  induction items generalizing start with
  | nil => exact .nil
  | cons item rest induction =>
      have found : tree.childNodes[start]? = some item := by
        rw [← List.head?_drop, among, List.head?_cons]
      have others : tree.childNodes.drop (start + 1) = rest := by
        rw [← List.tail_drop, among, List.tail_cons]
      have first := (each item (by simp)).inChild found
      have later := induction others fun other member => each other (by simp [member])
      simp only [itemViolations, List.map_append, List.map_map]
      exact first.append later

theorem inside?_succ (standIns : Option Text.StandIns) (room : Nat) :
    Reading.inside? ⟨some (room + 1), standIns⟩ = some ⟨some room, standIns⟩ :=
  rfl

theorem violations_of_no_room (standIns : Option Text.StandIns) (tree : Value) :
    violations ⟨some 0, standIns⟩ tree = [.here .tooDeep] := by
  cases tree <;> rfl

theorem violations_deepens (standIns : Option Text.StandIns) (tree : Value) (depth : Nat) :
    Deepens standIns tree depth (violations ⟨some depth, standIns⟩ tree)
      (violations ⟨some (depth + 1), standIns⟩ tree) := by
  induction tree using Value.treeInduction generalizing depth with
  | node tree below =>
      cases depth with
      | zero =>
          have goesOn : Deepens standIns tree 0 [(Violation.here .tooDeep).inPlace []]
              ((violations ⟨some 1, standIns⟩ tree).map (.inPlace []) ++ []) :=
            .further rfl rfl .nil
          simpa [violations_of_no_room, Violation.inPlace] using goesOn
      | succ depth =>
          cases tree with
          | object fields =>
              have children : Deepens standIns (.object fields) (depth + 1)
                  ((childrenViolations ⟨some depth, standIns⟩ fields).map (.under "children"))
                  ((childrenViolations ⟨some (depth + 1), standIns⟩ fields).map
                    (.under "children")) := by
                rw [childrenViolations_eq, childrenViolations_eq]
                cases listed : Fields.get? fields "children" with
                | none => exact .nil
                | some value =>
                    cases value with
                    | list items =>
                        have nodes := Value.childNodes_of_list listed
                        exact itemViolations_deepens (by rw [nodes, List.drop_zero])
                          fun item member => below item (by rwa [nodes]) depth
                    | _ => exact .of_shallow (by simp [Violation.here, Violation.under])
              have under {report : List Violation} (key : String)
                  (shallow : ∀ violation ∈ report, violation.complaint ≠ .tooDeep) :
                  Deepens standIns (.object fields) (depth + 1) (report.map (.under key))
                    (report.map (.under key)) := by
                refine .of_shallow ?_
                simp only [List.mem_map]
                rintro _ ⟨violation, member, rfl⟩
                exact shallow violation member
              cases readable : hasUnreadableKey ⟨some (depth + 1), standIns⟩ fields with
              | true =>
                  rw [violations_object_of_unreadable readable (inside?_succ standIns depth),
                    @violations_object_of_unreadable ⟨some (depth + 2), standIns⟩ _ _
                      readable (inside?_succ standIns (depth + 1))]
                  exact .of_shallow (by simp [Violation.here])
              | false =>
                  rw [violations_object_of_room readable (inside?_succ standIns depth),
                    @violations_object_of_room ⟨some (depth + 2), standIns⟩ _ _ readable
                      (inside?_succ standIns (depth + 1))]
                  exact ((((under "type" (typeViolations_shallow _ fields)).append
                    (.of_shallow (optionalTextViolations_shallow fields "key"))).append
                    (under "params" (paramsViolations_shallow fields))).append children).append
                    (.of_shallow (unknownKeys_shallow keys fields))
          | _ => exact .of_shallow (by simp [violations, Reading.inside?, Violation.here])

/-- A report stops at every value that stands as far down as it has room, if all keys on the
way there can be read. -/
theorem tooDeep_mem_violations {tree value : Value} {depth : Nat} {path : List Nat}
    (far : path.length = depth) (stands : tree.at? path = some value)
    (readable : ReadableAlong standIns tree path) :
    (Violation.here .tooDeep).inPlace path ∈ violations ⟨some depth, standIns⟩ tree := by
  induction path generalizing tree depth with
  | nil =>
      subst far
      simp [violations_of_no_room, Violation.inPlace]
  | cons index path induction =>
      subst far
      obtain ⟨child, found, below⟩ := Value.exists_of_at?_cons stands
      obtain ⟨here, onward⟩ := readable
      have onward := onward child found
      obtain ⟨fields, items, rfl, listed, nodes⟩ := Value.exists_list_of_childNodes found
      rw [nodes] at found
      obtain ⟨before, behind, split⟩ := itemViolations_set ⟨some path.length, standIns⟩ 0 found
      obtain ⟨inBounds, rfl⟩ := List.getElem?_eq_some_iff.mp found
      have whole := split items[index]
      rw [List.set_getElem_self, Nat.zero_add] at whole
      have reported : ((Violation.here .tooDeep).inPlace path).inChild index ∈
          (childrenViolations ⟨some path.length, standIns⟩ fields).map (.under "children") := by
        have listing : childrenViolations ⟨some path.length, standIns⟩ fields =
            itemViolations ⟨some path.length, standIns⟩ 0 items := by
          rw [childrenViolations_eq, listed]
        rw [listing, whole]
        refine List.mem_map_of_mem ?_
        simp only [List.mem_append]
        exact .inl (.inr (List.mem_map_of_mem (induction rfl below onward)))
      rw [List.length_cons, @violations_object_of_room ⟨some (path.length + 1), standIns⟩ _ _
        (here fields rfl) (inside?_succ standIns path.length)]
      simp only [List.mem_append]
      exact .inl (.inr reported)

/-! ### Nodes one in another -/

/-- So many boxes, one in another, and one more around them. -/
def tower : Nat → Value
  | 0 => .object [("type", "Box"), ("params", .object [])]
  | boxes + 1 => .object [("type", "Box"), ("params", .object []),
      ("children", .list [tower boxes])]

theorem violations_tower_of_lt {room boxes : Nat} (fits : boxes < room) :
    violations ⟨some room, none⟩ (tower boxes) = [] := by
  induction boxes generalizing room with
  | zero =>
      obtain ⟨less, rfl⟩ : ∃ less, room = less + 1 := ⟨room - 1, by omega⟩
      rw [tower, violations_object_of_room rfl (inside?_succ none less)]
      rfl
  | succ boxes induction =>
      obtain ⟨less, rfl⟩ : ∃ less, room = less + 1 := ⟨room - 1, by omega⟩
      rw [tower, violations_object_of_room rfl (inside?_succ none less),
        childrenViolations_eq]
      simp [Fields.get?, itemViolations, induction (Nat.lt_of_succ_lt_succ fits),
        typeViolations, Reading.isBroken, optionalTextViolations, paramsViolations, unknownKeys,
        keys, Fields.keys]

theorem violations_tower {room boxes : Nat} (tooMany : room ≤ boxes) :
    violations ⟨some room, none⟩ (tower boxes) =
      [(Violation.here .tooDeep).inPlace (List.replicate room 0)] := by
  induction room generalizing boxes with
  | zero => cases boxes <;> rfl
  | succ room induction =>
      obtain ⟨less, rfl⟩ : ∃ less, boxes = less + 1 := ⟨boxes - 1, by omega⟩
      rw [tower, violations_object_of_room rfl (inside?_succ none room),
        childrenViolations_eq]
      simp [Fields.get?, itemViolations, induction (Nat.le_of_succ_le_succ tooMany),
        typeViolations, Reading.isBroken, optionalTextViolations, paramsViolations, unknownKeys,
        keys, Fields.keys, List.replicate_succ, Violation.inPlace, Violation.inChild]

/-! ### The check of nodes -/

theorem validateBy_ok_iff_violations {reading : Reading} {value : Value} :
    (∃ node, validateBy reading value = .ok node) ↔ violations reading value = [] := by
  rw [validateBy_ok_iff, violations_eq_nil_iff]

theorem details_of_validateBy {reading : Reading} {value : Value} {problem : Problem}
    (refused : validateBy reading value = .error problem) :
    problem.details = .list ((violations reading value).map Violation.toValue) := by
  unfold validateBy at refused
  split at refused
  · cases refused
  · cases refused
    exact Problem.details_invalidDocument _ _ _

end Node

/-! ### The check of pages -/

namespace Page

variable {standIns : Option Text.StandIns}

/-- What is wrong with a page is what is wrong with its version, with its metadata and with
its root, and which keys it should not have. -/
theorem violations_object {reading : Node.Reading} {fields : Fields} {root : Value}
    (readable : Node.hasUnreadableKey reading fields = false)
    (hasRoot : Fields.get? fields "root" = some root) :
    violations reading (.object fields) =
      (requiredViolations fields "version" (versionViolations reading)
        ++ requiredViolations fields "meta" (PageMeta.violations reading))
      ++ (Node.violations reading root).map (.under "root")
      ++ Node.unknownKeys keys fields := by
  simp [violations, readable, requiredViolations, hasRoot]

theorem path_of_required {fields : Fields} {key : String}
    {report : Value → List Violation} {violation : Violation}
    (member : violation ∈ requiredViolations fields key report) :
    violation.path.head? = some key := by
  simp only [requiredViolations, List.mem_map] at member
  obtain ⟨inner, -, rfl⟩ := member
  rfl

theorem path_of_unknown {fields : Fields} {violation : Violation}
    (member : violation ∈ Node.unknownKeys keys fields) :
    violation.path.head? ≠ some "root" := by
  simp only [Node.unknownKeys, List.mem_map, List.mem_filter] at member
  obtain ⟨key, ⟨-, unknown⟩, rfl⟩ := member
  simp only [List.head?_cons, ne_eq, Option.some.injEq]
  rintro rfl
  simp [keys] at unknown

/-- A value that is refused as a page is refused with everything that is wrong with it, and
the second reading of its root is never what refuses it. -/
theorem validateBy_error {value : Value} {problem : Problem}
    (refused : validateBy (.ofDocumentsWith standIns) value = .error problem) :
    problem = invalid (violations (insideReadingWith standIns) value) := by
  by_cases grammar : Grammar (insideReadingWith standIns) value
  · obtain ⟨page, accepted⟩ := validateWith_ok_iff.mpr grammar
    simp [accepted] at refused
  · rw [validateWith_eq_error grammar] at refused
    exact (Except.error.inj refused).symm

/-- Whatever a page is refused for, it is refused as a page.  Unless one of its own keys holds a
surrogate, which is all that is reported then, its root is reported on in one piece and in the
order of the check of nodes, whatever else is wrong with the page: with all that this check
reports if no value stands 254 nodes below the root, and otherwise with all of it but what goes
further down, for it stops at each of these values.  So a page is accepted only if its root is,
and a root that is refused shows in the report on the page. -/
theorem validate_reports_root (standIns : Option Text.StandIns) (value : Value) :
    (∀ problem, validateBy (.ofDocumentsWith standIns) value = .error problem →
      problem.name = "ValidationError" ∧ problem.code.text = "DSL_INVALID_PAGE" ∧
        problem.details =
          .list ((violations (insideReadingWith standIns) value).map Violation.toValue)) ∧
    ∀ fields root, value = .object fields → Fields.get? fields "root" = some root →
      ((∃ node, Node.validateBy (.ofDocumentsWith standIns) root = .ok node) ↔
        Node.violations (.ofDocumentsWith standIns) root = []) ∧
      (∀ problem, Node.validateBy (.ofDocumentsWith standIns) root = .error problem →
        problem.details =
          .list ((Node.violations (.ofDocumentsWith standIns) root).map Violation.toValue)) ∧
      ((∃ page, validateBy (.ofDocumentsWith standIns) value = .ok page) →
        ∃ node, Node.validateBy (.ofDocumentsWith standIns) root = .ok node) ∧
      (Node.hasUnreadableKey (.ofDocumentsWith standIns) fields = true →
        violations (insideReadingWith standIns) value = [.here .notUnicode]) ∧
      (Node.hasUnreadableKey (.ofDocumentsWith standIns) fields = false →
        ∃ before block behind,
          violations (insideReadingWith standIns) value =
            before ++ block.map (.under "root") ++ behind ∧
          (∀ violation ∈ before ++ behind, violation.path.head? ≠ some "root") ∧
          (∀ violation : Violation, (violation.under "root").complaint = violation.complaint ∧
            (violation.under "root").pathText = "/root" ++ violation.pathText) ∧
          Node.Deepens standIns root 254 block
            (Node.violations (.ofDocumentsWith standIns) root) ∧
          (∀ (path : List Nat) (node : Value), path.length = 254 → root.at? path = some node →
            Node.ReadableAlong standIns root path →
            (Violation.here .tooDeep).inPlace path ∈ block) ∧
          ((∀ path : List Nat, path.length = 254 → root.at? path = none) →
            block = Node.violations (.ofDocumentsWith standIns) root) ∧
          (Node.violations (.ofDocumentsWith standIns) root ≠ [] → block ≠ [])) := by
  refine ⟨?refused, ?root⟩
  case refused =>
    intro problem refused
    rw [validateBy_error refused]
    exact ⟨rfl, rfl, Problem.details_invalidDocument _ _ _⟩
  case root =>
    rintro fields root rfl hasRoot
    have deepens : Node.Deepens standIns root 254
        (Node.violations (insideReadingWith standIns) root)
        (Node.violations (.ofDocumentsWith standIns) root) :=
      Node.violations_deepens standIns root 254
    refine ⟨Node.validateBy_ok_iff_violations, fun problem => Node.details_of_validateBy, ?_, ?_,
      fun readable => ⟨_, Node.violations (insideReadingWith standIns) root, _,
        violations_object readable hasRoot, ?_, ?_, deepens,
        fun path node far stands along => Node.tooDeep_mem_violations far stands along,
        deepens.eq_of_shallow, mt deepens.long_eq_nil⟩⟩
    · intro accepted
      obtain @⟨_, _, _, given, -, -, -, -, -, found, rootGrammar, -⟩ :=
        validateWith_ok_iff.mp accepted
      obtain rfl : root = given := Option.some.inj (hasRoot.symm.trans found)
      rw [Node.validateBy_ok_iff_violations]
      exact deepens.long_eq_nil (Node.violations_eq_nil_iff.mpr rootGrammar)
    · intro unreadable
      have unreadable : Node.hasUnreadableKey (insideReadingWith standIns) fields = true :=
        unreadable
      simp [violations, unreadable]
    · intro violation member
      simp only [List.mem_append] at member
      rcases member with (version | info) | unknown
      · simp [path_of_required version]
      · simp [path_of_required info]
      · exact path_of_unknown unknown
    · exact fun violation => ⟨rfl, Violation.pathText_under "root" violation⟩

/-- A page that is wrong in its version, in the params of its root, in a child of the root and
in a key. -/
def misfiledPage : Value :=
  .object [("version", "1."), ("style", .null), ("meta", .object []),
    ("root", .object [("type", "Box"), ("children", .list [.int 5])])]

theorem validate_reports_root_misfiledPage :
    (¬ ∃ page, validate misfiledPage = .ok page) ∧
      ∃ before behind,
        violations insideReading misfiledPage =
          before ++ [⟨["root", "params"], .missing⟩,
            ⟨["root", "children", "0"], .notRecord "Node"⟩] ++ behind ∧
        ∀ violation ∈ before ++ behind, violation.path.head? ≠ some "root" := by
  obtain ⟨-, located⟩ := validate_reports_root none misfiledPage
  obtain ⟨accepts, -, agrees, -, reported⟩ := located _ _ rfl rfl
  obtain ⟨before, block, behind, whole, apart, -, -, -, same, -⟩ := reported rfl
  have told : Node.violations (.ofDocumentsWith none)
      (.object [("type", "Box"), ("children", .list [.int 5])]) =
        [⟨["params"], .missing⟩, ⟨["children", "0"], .notRecord "Node"⟩] := by
    decide
  refine ⟨fun accepted => ?_, before, behind, ?_, apart⟩
  · have sound := accepts.mp (agrees accepted)
    simp [told] at sound
  · have nothing : ∀ path : List Nat, path.length = 254 →
        (Value.object [("type", "Box"), ("children", .list [.int 5])]).at? path = none := by
      intro path long
      match path, long with
      | first :: second :: rest, _ =>
          -- Nothing stands below the one child.
          cases first <;> simp [Value.at?, Value.childNodes, Fields.get?]
    rw [whole, same nothing, told]
    rfl

/-- A page whose root stands above so many boxes, one in another. -/
def deepPage (boxes : Nat) : Value :=
  .object [("version", "1.0.0"), ("meta", .object []), ("root", Node.tower boxes)]

/-- A page with a surrogate for a key and a root that is no node. -/
def brokenPage : Value :=
  .object [("version", "1.0.0"), ("meta", .object []), ("root", .int 5),
    (Node.loneSurrogate, .null)]

/-- With 254 boxes below the root, the root is a node and the page is not accepted: what is
reported for the root is not what the check of nodes reports.  And where a key of the page is a
surrogate, nothing is reported for a root that is no node. -/
theorem deepPage_apart :
    (∃ node, Node.validate (Node.tower 254) = .ok node) ∧
      validate (deepPage 254) =
        .error (invalid
          [((Violation.here .tooDeep).inPlace (List.replicate 254 0)).under "root"]) ∧
      (¬ ∃ before behind,
        violations insideReading (deepPage 254) =
          before ++ (Node.violations .ofDocuments (Node.tower 254)).map (.under "root") ++
            behind ∧
        ∀ violation ∈ before ++ behind, violation.path.head? ≠ some "root") ∧
      Node.violations (.ofDocumentsWith (some .earliest)) (.int 5) =
        [.here (.notRecord "Node")] ∧
      validateBy (.ofDocumentsWith (some .earliest)) brokenPage =
        .error (invalid [.here .notUnicode]) := by
  have sound : Node.violations .ofDocuments (Node.tower 254) = [] :=
    Node.violations_tower_of_lt (by decide)
  have stopped : Node.violations insideReading (Node.tower 254) =
      [(Violation.here .tooDeep).inPlace (List.replicate 254 0)] :=
    Node.violations_tower (Nat.le_refl 254)
  have report : violations insideReading (deepPage 254) =
      [((Violation.here .tooDeep).inPlace (List.replicate 254 0)).under "root"] := by
    rw [deepPage, violations_object rfl rfl, stopped]
    rfl
  have refused : ¬ Grammar insideReading (deepPage 254) := by
    rintro @⟨_, _, _, root, -, -, -, -, -, found, grammar, -⟩
    obtain rfl : Node.tower 254 = root := Option.some.inj found
    have accepted := Node.violations_eq_nil_iff.mpr grammar
    exact List.cons_ne_nil _ _ (stopped.symm.trans accepted)
  refine ⟨Node.validateBy_ok_iff_violations.mpr sound, ?_, ?_, rfl, rfl⟩
  · rw [validate, Node.Reading.ofDocuments, validateWith_eq_error refused, report]
  · rintro ⟨before, behind, whole, apart⟩
    rw [sound, report, List.map_nil, List.append_nil] at whole
    exact apart _ (whole ▸ List.mem_singleton.mpr rfl) rfl

end Page

end PageComposer
