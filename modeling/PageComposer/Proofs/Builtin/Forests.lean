import PageComposer.Proofs.Builtin.Contracts
import PageComposer.Proofs.Markup.Reading

/-!
# What built-in plugins render

`treeOf` says which tree of elements a node of a built-in type describes: its params give
the tag, the attributes and the texts, and only a container holds what the nodes below it
describe.  A rendered text is the markup of the described forest, so it is read back to
that forest and to no other, whatever characters the params hold.
-/

namespace PageComposer.Builtin

open Markup (Attribute Tree Proper writeText writeAttribute writeAll)

/-! ### What a node describes -/

/-- The text that a param holds, or a default. -/
def textIn (params : Fields) (name default : String) : String :=
  match Fields.get? params name with
  | some (.str text) => text
  | _ => default

/-- A text as content; an empty one is nothing. -/
def textNodes (content : String) : List Tree := if content = "" then [] else [.text content]

/-- An attribute for the text of a param, unless the text is empty. -/
def attributeIn (params : Fields) (param name : String) : List Attribute :=
  if textIn params param "" = "" then [] else [(name, textIn params param "")]

/-- An attribute for the number of a param: a whole number without a fraction. -/
def lengthIn (params : Fields) (name : String) : List Attribute :=
  match Fields.get? params name with
  | some (.int value) => [(name, toString value)]
  | some (.float value) =>
      match value.toInt? with
      | some whole => [(name, toString whole)]
      | none => [(name, (Value.float value).display)]
  | _ => []

def itemsIn (params : Fields) : List Value :=
  match Fields.get? params "items" with
  | some (.list items) => items
  | _ => []

/-- The text of an item; with a text for a key every item has one. -/
def itemText (params : Fields) (item : Value) : String :=
  match ListItem.text (Fields.getD params "itemKey") item with
  | .ok text => text
  | .error _ => ""

/-- The element that a node describes, around the trees of the nodes below it. -/
def elementOf (type : Value) (params : Fields) (below : List Tree) : Tree :=
  match type with
  | .str "Container" =>
      .element (textIn params "tag" "div") (attributeIn params "class" "class") below
  | .str "TextBlock" =>
      .element (textIn params "tag" "p") (attributeIn params "class" "class")
        (textNodes (textIn params "text" ""))
  | .str "Image" =>
      .void "img" (("src", textIn params "src" "") :: (attributeIn params "alt" "alt"
        ++ lengthIn params "width" ++ lengthIn params "height"
        ++ attributeIn params "class" "class"))
  | _ =>
      .element (if (Fields.getD params "ordered").truthy then "ol" else "ul")
        (attributeIn params "class" "class")
        ((itemsIn params).map fun item =>
          .element "li" (attributeIn params "itemClass" "class")
            (textNodes (itemText params item)))

def entriesOf : Value → Fields
  | .object fields =>
      match Renderer.paramsOf fields with
      | .object params => params
      | _ => []
  | _ => []

def treeOf (node : Value) : Tree :=
  elementOf node.typeOf (entriesOf node) (node.childNodes.attach.map fun child => treeOf child.1)
termination_by sizeOf node
decreasing_by exact Value.sizeOf_lt_of_mem_childNodes child.2

theorem treeOf_eq (node : Value) :
    treeOf node = elementOf node.typeOf (entriesOf node) (node.childNodes.map treeOf) := by
  rw [treeOf, List.map_subtype (g := treeOf) (by intros; rfl)]
  simp

/-! ### Markup, character by character -/

theorem toList_attributeText (name : String) (value : Value) :
    (Markup.attributeText name value).toList =
      name.toList ++ ('=' :: '"' :: (writeText value.display ++ ['"'])) := by
  simp [Markup.attributeText, Markup.escapeValue, Markup.escape, writeText]

theorem toList_element (tag : String) (className : Value) (body : String) :
    (Markup.element tag className body).toList =
      '<' :: (tag.toList ++ ((Markup.classAttribute className).toList ++ ('>' :: (body.toList ++
        ('<' :: '/' :: (tag.toList ++ ['>'])))))) := by
  simp [Markup.element]

theorem truthy_getD_of_text {params : Fields} {name : String} (texts : TextIfGiven params name) :
    (Fields.getD params name).truthy = !(textIn params name "").isEmpty ∧
      ((Fields.getD params name).truthy = true →
        Fields.getD params name = .str (textIn params name "")) := by
  cases found : Fields.get? params name with
  | none => simp [Fields.getD, textIn, found, Value.truthy]
  | some value =>
      obtain ⟨text, rfl⟩ := texts value found
      simp [Fields.getD, textIn, found, Value.truthy]

theorem toList_optionalText {params : Fields} {param name : String}
    (texts : TextIfGiven params param) :
    ((if (Fields.getD params param).truthy then
        [Markup.attributeText name (Fields.getD params param)] else []).flatMap
      fun written => ' ' :: written.toList) =
      (attributeIn params param name).flatMap writeAttribute := by
  obtain ⟨counts, same⟩ := truthy_getD_of_text texts
  by_cases given : textIn params param "" = ""
  · simp [attributeIn, counts, given]
  · have counts : (Fields.getD params param).truthy = true := by
      rw [counts]
      simp [given]
    rw [if_pos counts, same counts]
    simp [attributeIn, given, toList_attributeText, writeAttribute, Value.display]

theorem toList_classAttribute {params : Fields} {param : String}
    (texts : TextIfGiven params param) :
    (Markup.classAttribute (Fields.getD params param)).toList =
      (attributeIn params param "class").flatMap writeAttribute := by
  rw [← toList_optionalText texts]
  unfold Markup.classAttribute
  split <;> simp

theorem writeAll_textNodes (content : String) :
    writeAll (textNodes content) = writeText content := by
  unfold textNodes
  split
  · rename_i empty
    simp [empty, writeAll, writeText]
  · simp [writeAll, Tree.write]

/-! ### The four bodies -/

theorem tagOf_ok {args : RenderArgs} {params : Fields} {choices : List String}
    (given : args.params = .object params) (oneOf : OneOfIfGiven params "tag" choices)
    (proper : "" ∉ choices) (default : String) :
    tagOf args default = .ok (textIn params "tag" default) := by
  simp only [tagOf, param, given, Value.lookup, Value.entries, bind, Except.bind, pure,
    Except.pure, Fields.getD, textIn]
  cases found : Fields.get? params "tag" with
  | none => simp [Value.orElse, Value.truthy, Value.display]
  | some value =>
      obtain ⟨tag, member, rfl⟩ := oneOf value found
      have notEmpty : tag ≠ "" := fun same => proper (same ▸ member)
      simp [Value.orElse, Value.truthy, Value.display, notEmpty]

/-- What a rendered node reads: its params, and the markup of the forest below it. -/
structure Rendering (args : RenderArgs) (params : Fields) (below : List Tree) : Prop where
  params : args.params = .object params
  children : args.children.toList = writeAll below

variable {args : RenderArgs} {params : Fields} {below : List Tree} {own : String}

theorem param_ok (given : args.params = .object params) (name : String) :
    param args name = .ok (Fields.getD params name) := by
  simp [param, given, Value.lookup, Value.entries, bind, Except.bind, pure, Except.pure]

theorem Container.render_writes (contract : Container.Contract params)
    (rendering : Rendering args params below) (rendered : Container.render args = .ok own) :
    own.toList = (elementOf (.str "Container") params below).write := by
  have tag := tagOf_ok rendering.params contract.tag (by decide) "div"
  simp only [Container.render, tag, param_ok rendering.params, bind, Except.bind, pure,
    Except.pure, Except.ok.injEq] at rendered
  rw [← rendered, toList_element, toList_classAttribute contract.className, rendering.children]
  rfl

theorem requiredParam_ok {value : Value} {name : String} (given : args.params = .object params)
    (found : Fields.get? params name = some value) : requiredParam args name = .ok value := by
  simp [requiredParam, given, Value.entries, found, bind, Except.bind, pure, Except.pure]

theorem TextBlock.render_writes (contract : TextBlock.Contract params)
    (rendering : Rendering args params below) (rendered : TextBlock.render args = .ok own) :
    own.toList = (elementOf (.str "TextBlock") params below).write := by
  have tag := tagOf_ok rendering.params contract.tag (by decide) "p"
  obtain ⟨text, found⟩ := contract.text
  simp only [TextBlock.render, tag, param_ok rendering.params,
    requiredParam_ok rendering.params found, bind, Except.bind, pure,
    Except.pure, Except.ok.injEq] at rendered
  have content : (Markup.escapeValue (.str text)).toList =
      writeAll (textNodes (textIn params "text" "")) := by
    rw [writeAll_textNodes]
    simp [Markup.escapeValue, Markup.escape, Value.display, writeText, textIn, found]
  rw [← rendered, toList_element, toList_classAttribute contract.className, content]
  rfl

theorem toList_emptyElement (tag first : String) (others : List String) :
    (Markup.emptyElement tag (first :: others)).toList =
      '<' :: (tag.toList ++ ((first :: others).flatMap (fun written => ' ' :: written.toList) ++
        [' ', '/', '>'])) := by
  have joined : ∀ first : String, (String.intercalate " " (first :: others)).toList =
      first.toList ++ others.flatMap fun written => ' ' :: written.toList := by
    induction others with
    | nil => simp
    | cons second rest induction =>
        intro first
        rw [String.intercalate_cons_cons]
        simp [induction second]
  have opening : "<".toList = ['<'] := by decide
  have blank : " ".toList = [' '] := by decide
  have ending : " />".toList = [' ', '/', '>'] := by decide
  simp only [Markup.emptyElement, String.toList_append, joined first, opening, blank, ending,
    List.flatMap_cons, List.cons_append, List.nil_append, List.append_assoc]

theorem Image.optionalText_ok {name : String} (given : args.params = .object params) :
    Image.optionalText args name = .ok (if (Fields.getD params name).truthy then
      [Markup.attributeText name (Fields.getD params name)] else []) := by
  simp [Image.optionalText, param_ok given, bind, Except.bind, pure, Except.pure]

/-- `Image.length?` over any tests for the range of doubles and for whole ones, whose
evaluation is out of reach. -/
def Image.lengthBy (ofInt? : Int → Option Binary64) (toInt? : Binary64 → Option Int) :
    Value → Outcome (Option Value)
  | .int value =>
      match ofInt? value with
      | some _ => .ok (some (.int value))
      | none => .error (.misuse .tooLarge)
  | .float value =>
      match toInt? value with
      | some whole => .ok (some (.int whole))
      | none => .ok (some (.float value))
  | _ => .ok none

theorem Image.length?_eq :
    Image.length? = Image.lengthBy Binary64.ofInt? Binary64.toInt? := rfl

/-- The length of a param is shown as the attribute that the param describes. -/
theorem Image.lengthBy_writes {ofInt? : Int → Option Binary64} {name : String} {value : Value}
    {length : Option Value}
    (answered : Image.lengthBy ofInt? Binary64.toInt? value = .ok length)
    (counts : value.number?.isSome = true) (found : Fields.get? params name = some value) :
    (length.map (Markup.attributeText name)).toList.flatMap (fun written => ' ' :: written.toList) =
      (lengthIn params name).flatMap writeAttribute := by
  cases value with
  | int value =>
      cases inRange : ofInt? value with
      | none => simp [Image.lengthBy, inRange] at answered
      | some double =>
          simp only [Image.lengthBy, inRange, Except.ok.injEq] at answered
          simp [← answered, lengthIn, found, toList_attributeText, writeAttribute, Value.display,
            Value.quoted]
  | float value =>
      cases whole : value.toInt? with
      | none =>
          simp only [Image.lengthBy, whole, Except.ok.injEq] at answered
          simp [← answered, lengthIn, found, whole, toList_attributeText, writeAttribute]
      | some number =>
          simp only [Image.lengthBy, whole, Except.ok.injEq] at answered
          simp [← answered, lengthIn, found, whole, toList_attributeText, writeAttribute,
            Value.display, Value.quoted]
  | _ => simp [Value.number?] at counts

theorem Image.optionalLength_writes {name : String} {written : List String}
    (given : args.params = .object params) (numbers : Image.NumberIfGiven params name)
    (answered : Image.optionalLength args name = .ok written) :
    written.flatMap (fun written => ' ' :: written.toList) =
      (lengthIn params name).flatMap writeAttribute := by
  simp only [Image.optionalLength, param_ok given, Image.length?_eq, bind, Except.bind, pure,
    Except.pure] at answered
  rcases shown : Image.lengthBy Binary64.ofInt? Binary64.toInt? (Fields.getD params name) with
    fault | length
  · simp [shown] at answered
  · simp only [shown, Except.ok.injEq] at answered
    subst answered
    cases found : Fields.get? params name with
    | none =>
        have absent : length = none := by
          simpa [Fields.getD, found, Image.lengthBy, eq_comm] using shown
        simp [absent, lengthIn, found]
    | some value =>
        rw [Fields.getD, found, Option.getD_some] at shown
        exact Image.lengthBy_writes shown (numbers value found) found

theorem Image.render_writes (contract : Image.Contract params)
    (rendering : Rendering args params below) (rendered : Image.render args = .ok own) :
    own.toList = (elementOf (.str "Image") params below).write := by
  obtain ⟨src, found, -⟩ := contract.src
  have src : textIn params "src" "" = src := by simp [textIn, found]
  simp only [Image.render, requiredParam_ok rendering.params found,
    Image.optionalText_ok rendering.params, bind, Except.bind, pure, Except.pure] at rendered
  rcases width : Image.optionalLength args "width" with fault | widths
  · simp [width] at rendered
  · rcases height : Image.optionalLength args "height" with fault | heights
    · simp [width, height] at rendered
    · simp only [width, height, Except.ok.injEq] at rendered
      rw [← rendered, toList_emptyElement]
      simp only [List.flatMap_cons, List.flatMap_append, toList_optionalText contract.alt,
        toList_optionalText contract.className,
        Image.optionalLength_writes rendering.params contract.width width,
        Image.optionalLength_writes rendering.params contract.height height,
        toList_attributeText, Value.display]
      simp [elementOf, Tree.write, src, writeAttribute]

theorem List.elements_write (text : Value → String) {className key : Value}
    {classes : List Attribute} {items : List Value} {body : String}
    (written : (Markup.classAttribute className).toList = classes.flatMap writeAttribute)
    (texts : ∀ item own, ListItem.text key item = .ok own → text item = own)
    (rendered : List.elements className key items = .ok body) :
    body.toList = writeAll (items.map fun item =>
      .element "li" classes (textNodes (text item))) := by
  induction items generalizing body with
  | nil =>
      simp only [List.elements, Except.ok.injEq] at rendered
      simp [← rendered, writeAll]
  | cons item rest induction =>
      rcases shown : ListItem.text key item with fault | own
      · simp [List.elements, shown, bind, Except.bind] at rendered
      · rcases onward : List.elements className key rest with fault | others
        · simp [List.elements, shown, onward, bind, Except.bind] at rendered
        · simp only [List.elements, shown, onward, bind, Except.bind, pure, Except.pure,
            Except.ok.injEq] at rendered
          have content : (Markup.escape own).toList = writeAll (textNodes (text item)) := by
            rw [writeAll_textNodes, texts item own shown]
            simp [Markup.escape, writeText]
          rw [← rendered, String.toList_append, toList_element, written, content,
            induction onward]
          simp [writeAll, Tree.write]

/-- Every item of a list has a text. -/
theorem List.text_ok (contract : List.Contract params) (item : Value) :
    ListItem.text (Fields.getD params "itemKey") item = .ok (itemText params item) := by
  have keyed (fields : Fields) :
      ∃ found, ListItem.keyed? fields (Fields.getD params "itemKey") = .ok found := by
    cases found : Fields.get? params "itemKey" with
    | none => exact ⟨none, by simp [ListItem.keyed?, Fields.getD, found, Value.truthy]⟩
    | some value =>
        obtain ⟨key, rfl⟩ := contract.itemKey value found
        simp only [ListItem.keyed?, Fields.getD, found, Option.getD_some]
        split <;> exact ⟨_, rfl⟩
  have answered : ∃ own, ListItem.text (Fields.getD params "itemKey") item = .ok own := by
    cases item with
    | object fields =>
        obtain ⟨found, keyed⟩ := keyed fields
        simp only [ListItem.text, keyed, bind, Except.bind, pure, Except.pure]
        split <;> exact ⟨_, rfl⟩
    | float value => cases whole : value.toInt? <;> simp [ListItem.text, whole]
    | _ => exact ⟨_, rfl⟩
  obtain ⟨own, shown⟩ := answered
  simp [itemText, shown]

theorem List.render_writes (contract : List.Contract params)
    (rendering : Rendering args params below) (rendered : List.render args = .ok own) :
    own.toList = (elementOf (.str "List") params below).write := by
  obtain ⟨items, found⟩ := contract.items
  have members : ((Fields.getD params "items").orElse (.list [])).members = .ok items := by
    cases items <;> simp [Fields.getD, found, Value.orElse, Value.truthy, Value.members]
  simp only [List.render, param_ok rendering.params, members, bind, Except.bind, pure,
    Except.pure] at rendered
  rcases shown : List.elements (Fields.getD params "itemClass") (Fields.getD params "itemKey")
    items with fault | body
  · simp [shown] at rendered
  · simp only [shown, Except.ok.injEq] at rendered
    have content := List.elements_write (itemText params)
      (toList_classAttribute contract.itemClass)
      (fun item own shown => by simp [itemText, shown]) shown
    have listed : itemsIn params = items := by simp [itemsIn, found]
    rw [← rendered, toList_element, toList_classAttribute contract.className, content, ← listed]
    rfl

/-! ### Described forests can be read back -/

theorem named_of_sublist {attributes : List Attribute} {names : List String}
    (among : (attributes.map Prod.fst).Sublist names)
    (proper : ∀ name ∈ names, Markup.isName name = true) (distinct : names.Nodup) :
    (∀ entry ∈ attributes, Markup.isName entry.1 = true) ∧ (attributes.map Prod.fst).Nodup :=
  ⟨fun _ member => proper _ (among.subset (List.mem_map_of_mem member)), distinct.sublist among⟩

theorem attributeIn_sublist (params : Fields) (param name : String) :
    ((attributeIn params param name).map Prod.fst).Sublist [name] := by
  unfold attributeIn
  split <;> simp

theorem lengthIn_sublist (params : Fields) (name : String) :
    ((lengthIn params name).map Prod.fst).Sublist [name] := by
  unfold lengthIn
  split
  · simp
  · split <;> simp
  · simp

theorem class_named (params : Fields) (param : String) :
    (∀ entry ∈ attributeIn params param "class", Markup.isName entry.1 = true) ∧
      ((attributeIn params param "class").map Prod.fst).Nodup :=
  named_of_sublist (attributeIn_sublist params param "class") (by decide) (by decide)

theorem proper_textNodes (content : String) : Proper (textNodes content) := by
  unfold textNodes
  split
  · exact .nil
  · rename_i given
    exact .text given (by simp) .nil

theorem textIn_mem {choices : List String} {name : String}
    (oneOf : OneOfIfGiven params name choices) (default : String) :
    textIn params name default ∈ default :: choices := by
  unfold textIn
  split
  · rename_i text found
    obtain ⟨choice, member, same⟩ := oneOf _ found
    rw [Value.str.injEq] at same
    simp [same, member]
  · simp

variable {rest : List Tree}

theorem Container.proper (contract : Container.Contract params) (inside : Proper below)
    (others : Proper rest) : Proper (elementOf (.str "Container") params below :: rest) := by
  have tags : ∀ tag ∈ "div" :: Container.tags,
      Markup.isName tag = true ∧ tag ∉ Markup.voidTags := by decide
  obtain ⟨named, notVoid⟩ := tags _ (textIn_mem contract.tag "div")
  obtain ⟨attributesNamed, distinct⟩ := class_named params "class"
  exact .element named notVoid attributesNamed distinct inside others

theorem TextBlock.proper (contract : TextBlock.Contract params) (others : Proper rest) :
    Proper (elementOf (.str "TextBlock") params below :: rest) := by
  have tags : ∀ tag ∈ "p" :: TextBlock.tags,
      Markup.isName tag = true ∧ tag ∉ Markup.voidTags := by decide
  obtain ⟨named, notVoid⟩ := tags _ (textIn_mem contract.tag "p")
  obtain ⟨attributesNamed, distinct⟩ := class_named params "class"
  exact .element named notVoid attributesNamed distinct (proper_textNodes _) others

theorem Image.proper (others : Proper rest) :
    Proper (elementOf (.str "Image") params below :: rest) := by
  have among : ((("src", textIn params "src" "") :: (attributeIn params "alt" "alt"
      ++ lengthIn params "width" ++ lengthIn params "height"
      ++ attributeIn params "class" "class")).map Prod.fst).Sublist
      ["src", "alt", "width", "height", "class"] := by
    rw [List.map_cons, List.map_append, List.map_append, List.map_append]
    exact .cons_cons _ ((((attributeIn_sublist params "alt" "alt").append
      (lengthIn_sublist params "width")).append (lengthIn_sublist params "height")).append
      (attributeIn_sublist params "class" "class"))
  obtain ⟨attributesNamed, distinct⟩ := named_of_sublist among (by decide) (by decide)
  exact .void (by decide) (by decide) attributesNamed distinct others

theorem List.proper (others : Proper rest) :
    Proper (elementOf (.str "List") params below :: rest) := by
  obtain ⟨attributesNamed, distinct⟩ := class_named params "class"
  obtain ⟨itemNamed, itemDistinct⟩ := class_named params "itemClass"
  have items : ∀ items : List Value, Proper (items.map fun item =>
      .element "li" (attributeIn params "itemClass" "class")
        (textNodes (itemText params item))) := by
    intro items
    induction items with
    | nil => exact .nil
    | cons item rest induction =>
        exact .element (by decide) (by decide) itemNamed itemDistinct (proper_textNodes _)
          induction
  have tags : ∀ ordered : Bool, Markup.isName (if ordered then "ol" else "ul") = true ∧
      (if ordered then "ol" else "ul") ∉ Markup.voidTags := by decide
  obtain ⟨named, notVoid⟩ := tags (Fields.getD params "ordered").truthy
  exact .element named notVoid attributesNamed distinct (items _) others

/-- A built-in plugin gives the markup of the element that its node describes, and the
element can be read back if what is below it can be. -/
theorem render_writes {id : String} {schema : Schema} {render : RenderArgs → Outcome String}
    (named : ofId? id = some (schema, render)) (valid : schema.report args.params = [])
    (children : args.children.toList = writeAll below) (rendered : render args = .ok own) :
    ∃ params, args.params = .object params ∧
      own.toList = (elementOf (.str id) params below).write ∧
      (Proper below → ∀ rest, Proper rest → Proper (elementOf (.str id) params below :: rest)) := by
  unfold ofId? at named
  split at named
  · obtain ⟨rfl, rfl⟩ := by simpa using named
    obtain ⟨params, given, contract⟩ := Container.report_eq_nil_iff.mp valid
    exact ⟨params, given, Container.render_writes contract ⟨given, children⟩ rendered,
      fun inside _ others => Container.proper contract inside others⟩
  · obtain ⟨rfl, rfl⟩ := by simpa using named
    obtain ⟨params, given, contract⟩ := TextBlock.report_eq_nil_iff.mp valid
    exact ⟨params, given, TextBlock.render_writes contract ⟨given, children⟩ rendered,
      fun _ _ others => TextBlock.proper contract others⟩
  · obtain ⟨rfl, rfl⟩ := by simpa using named
    obtain ⟨params, given, contract⟩ := Image.report_eq_nil_iff.mp valid
    exact ⟨params, given, Image.render_writes contract ⟨given, children⟩ rendered,
      fun _ _ others => Image.proper others⟩
  · obtain ⟨rfl, rfl⟩ := by simpa using named
    obtain ⟨params, given, contract⟩ := List.report_eq_nil_iff.mp valid
    exact ⟨params, given, List.render_writes contract ⟨given, children⟩ rendered,
      fun _ _ others => List.proper others⟩
  · simp at named

/-! ### Rendered forests -/

/-- All nodes of a forest are of built-in types. -/
def AllBuiltin (forest : List Value) : Prop :=
  ∀ root ∈ forest, ∀ node ∈ root.nodes, ∃ id, node.typeOf = .str id ∧ ofId? id ≠ none

theorem AllBuiltin.inside {root : Value} {rest : List Value} (all : AllBuiltin (root :: rest)) :
    AllBuiltin root.childNodes := by
  intro child member node inside
  exact all root (by simp) node (Value.mem_nodes_iff.mpr (.inr ⟨child, member, inside⟩))

theorem AllBuiltin.head {root : Value} {rest : List Value} (all : AllBuiltin (root :: rest)) :
    ∃ id schema render, root.typeOf = .str id ∧ ofId? id = some (schema, render) := by
  obtain ⟨id, typed, builtin⟩ := all root (by simp) root (Value.mem_nodes_iff.mpr (.inl rfl))
  obtain ⟨⟨schema, render⟩, named⟩ := Option.ne_none_iff_exists'.mp builtin
  exact ⟨id, schema, render, typed, named⟩

theorem play_ofOutcome_ok {audience : Audience} {answer : Outcome String}
    {session after : Session} {type : Value} {result : Outcome Rendered}
    (played : Renderer.play audience (.ofOutcome answer) session = (result, after))
    (gave : Renderer.textOf type result = .ok own) : answer = .ok own ∧ after = session := by
  cases answer with
  | error fault =>
      simp only [RenderBody.ofOutcome, Renderer.play_fail, Prod.mk.injEq] at played
      simp [← played.1, Renderer.textOf] at gave
  | ok text =>
      simp only [RenderBody.ofOutcome, Renderer.play_give, Prod.mk.injEq] at played
      obtain ⟨rfl, rfl⟩ := played
      simpa [Renderer.textOf] using gave

/-- A walk over built-in nodes that comes to a text leaves the session alone, and the text
is the markup of the described forest. -/
theorem walks_write {audience : Audience} {context : RenderContext} {items : List Value}
    {session after : Session} {trace : List Renderer.Moment} {outcome : Outcome String}
    (walks : Renderer.Walks audience context items session trace outcome after) :
    ∀ {text : String}, outcome = .ok text → InPlace session.hub.registry → AllBuiltin items →
      after = session ∧ text.toList = writeAll (items.map treeOf) ∧
        Proper (items.map treeOf) := by
  induction walks with
  | done =>
      rintro text same - -
      obtain rfl : "" = text := by simpa using same
      exact ⟨rfl, rfl, .nil⟩
  | notObject other | refused _ _ | misshapen _ _ _ | failedBelow _ _ _ _ _
  | failedLeaving _ _ _ _ _ _ _ =>
      rintro text same
      simp at same
  | @left fields rest children session between after last type body inner later markup own result
      outcome named admitted shaped _ played gave _ below others =>
      intro text same inPlace all
      obtain ⟨id, schema, render, typed, builtin⟩ := all.head
      rw [named, typed] at admitted
      obtain ⟨rfl, valid⟩ := inPlace.admission_ok builtin admitted
      obtain rfl := Renderer.childItems_eq_childNodes shaped
      obtain ⟨rfl, insideWritten, insideProper⟩ := below rfl inPlace all.inside
      obtain ⟨rendered, rfl⟩ := play_ofOutcome_ok played gave
      cases outcome with
      | error fault => simp [Except.map] at same
      | ok onward =>
          obtain rfl : own ++ onward = text := by simpa [Except.map] using same
          obtain ⟨rfl, restWritten, restProper⟩ := others rfl inPlace
            fun root member => all root (by simp [member])
          obtain ⟨params, given, written, proper⟩ :=
            render_writes builtin valid insideWritten rendered
          have shape : treeOf (.object fields) = elementOf (.str id) params
              ((Value.object fields).childNodes.map treeOf) := by
            have given : Renderer.paramsOf fields = .object params := given
            rw [treeOf_eq, typed, entriesOf, given]
          refine ⟨rfl, ?_, ?_⟩
          · rw [List.map_cons, writeAll, shape, ← written, ← restWritten, String.toList_append]
          · rw [List.map_cons, shape]
            exact proper insideProper _ restProper

/-- What is rendered of nodes of built-in types is read back to the forest that the nodes
describe: no text, attribute or item, whatever characters it holds, adds, closes or alters
an element or an attribute. -/
theorem read_render {audience : Audience} {context : RenderContext} {tree : Value}
    {session after : Session} {text : String} (inPlace : InPlace session.hub.registry)
    (all : AllBuiltin (Renderer.forestOf tree))
    (rendered : Program.answer (Renderer.render audience tree context) session =
      (.ok text, after)) :
    Markup.read text = some ((Renderer.forestOf tree).map treeOf) := by
  rw [Renderer.answer_render] at rendered
  obtain ⟨trace, walks⟩ : ∃ trace, Renderer.Walks audience context (Renderer.forestOf tree)
      session trace _ _ := Renderer.walks_answer (Renderer.forestOf tree) session
  rw [rendered] at walks
  obtain ⟨-, written, proper⟩ := walks_write walks rfl inPlace all
  have same : text = Markup.write ((Renderer.forestOf tree).map treeOf) := by
    rw [Markup.write, ← written, String.ofList_toList]
  rw [same, Markup.read_write proper]

def textSession : Session where
  hub := .of {
    library := .none
    registrations := [⟨"TextBlock", plugin "TextBlock" "content" "" [] TextBlock.schema
      TextBlock.render, ⟨"TextBlock", "content", .null, .null, .null, [], []⟩⟩]
    validators := [("TextBlock", .known TextBlock.compiled)]
    allowlist := some ["TextBlock"]
    subscriptions := [] }
  schedule := []

/-- A text block with a text that looks like markup. -/
def hostileText : Value :=
  .object [("type", "TextBlock"), ("params", .object [("text", "</p><b class=\"x\">&amp;")])]

theorem read_render_hostileText :
    InPlace textSession.hub.registry ∧ AllBuiltin (Renderer.forestOf hostileText) ∧
      ∃ text, Program.answer (Renderer.render .silent hostileText (.data .null)) textSession =
          (.ok text, textSession) ∧
        Markup.read text = some ((Renderer.forestOf hostileText).map treeOf) := by
  have inPlace : InPlace textSession.hub.registry := by
    intro id schema render named
    unfold ofId? at named
    split at named
    · exact .inl ⟨rfl, rfl⟩
    · obtain ⟨rfl, rfl⟩ := by simpa using named
      exact .inr ⟨_, rfl, rfl, rfl⟩
    · exact .inl ⟨rfl, rfl⟩
    · exact .inl ⟨rfl, rfl⟩
    · simp at named
  have all : AllBuiltin (Renderer.forestOf hostileText) := by
    intro root member node inside
    obtain rfl : root = hostileText := List.mem_singleton.mp member
    obtain rfl : node = hostileText := by
      simpa [Value.nodes_eq, hostileText, Value.childNodes, Fields.get?] using inside
    exact ⟨"TextBlock", rfl, by simp [ofId?]⟩
  have valid : TextBlock.compiled.report
      (.object [("text", "</p><b class=\"x\">&amp;")]) = [] :=
    TextBlock.report_eq_nil_iff.mpr
      ⟨_, rfl, by decide, ⟨_, rfl⟩, (fun _ given => by cases given), fun _ given => by cases given⟩
  have checked : textSession.hub.registry.validateParams (.str "TextBlock")
      (.object [("text", "</p><b class=\"x\">&amp;")]) = .ok () := by
    have found : textSession.hub.registry.validator? "TextBlock" =
        some (.known TextBlock.compiled) := rfl
    rw [Registry.validateParams_of_known found, valid]
  have admitted : Renderer.admission textSession.hub.registry (.str "TextBlock")
      (.object [("text", "</p><b class=\"x\">&amp;")]) =
        .ok fun args => .ofOutcome (TextBlock.render args) :=
    Renderer.admission_ok_iff.mpr ⟨rfl, checked, "TextBlock", _, rfl, rfl, rfl⟩
  have walks : Renderer.Walks .silent (.data .null) [hostileText] textSession _
      ((Except.ok "").map (_ ++ ·)) textSession :=
    .left rfl admitted rfl .done rfl rfl .done
  have rendered : Program.answer (Renderer.render .silent hostileText (.data .null)) textSession =
      Program.answer (Renderer.renderItems .silent (.data .null) [hostileText]) textSession :=
    Renderer.answer_render hostileText textSession
  exact ⟨inPlace, all, _, rendered.trans walks.answer_eq,
    read_render inPlace all (rendered.trans walks.answer_eq)⟩

end PageComposer.Builtin
