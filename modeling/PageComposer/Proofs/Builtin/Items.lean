import PageComposer.Proofs.Builtin.Forests
import PageComposer.Proofs.Markup.Escaping
import PageComposer.Proofs.Value.Spelling

/-!
# Items under a key and items of their own

A list shows an object that has its key by the value under the key: null is nothing, and any
other value has its text in messages.  A value that is an item itself is spelt by rules of its
own.  `ListItem.isKeptAlike` says of which values both make the same text, and a list of objects
with the key is rendered as the list of the values just when it holds of all of them.
-/

namespace PageComposer

namespace ListItem

variable {key : String} {fields : Fields} {value : Value}

/-- What a value shows under the key of a list. -/
def keptText (value : Value) : String := if value = .null then "" else value.display

theorem text_of_get? (given : key ≠ "") (found : Fields.get? fields key = some value) :
    text (.str key) (.object fields) = .ok (keptText value) := by
  have counts : (Value.str key).truthy = true := by
    simpa [Value.truthy] using given
  have keyed : keyed? fields (.str key) = .ok (some value) := by
    rw [keyed?, counts, Bool.not_true, if_neg Bool.false_ne_true, found]
  simp only [text, keyed, bind, Except.bind]
  cases value <;> rfl

/-- What a value shows as an item of its own, in a list without a key. -/
def plainText : Value → String
  | .null => ""
  | .bool value => if value then "true" else "false"
  | .int value => toString value
  | .float value =>
      match value.toInt? with
      | some whole => toString whole
      | none => (Value.float value).display
  | .str text => text
  | value => Json.compact value

theorem text_null (value : Value) : text .null value = .ok (plainText value) := by
  cases value with
  | float value => cases whole : value.toInt? <;> simp [text, plainText, whole]
  | _ => rfl

/-- The value shows the same text under a key as on its own: it is no truth value and no whole
double, and a list or an object is spelt alike in messages and in data. -/
def isKeptAlike : Value → Bool
  | .bool _ => false
  | .float value => value.toInt?.isNone
  | .list items => (Value.list items).isAlike
  | .object fields => (Value.object fields).isAlike
  | _ => true

/-- A double is not written as an integer is: it has a point or an exponent. -/
theorem display_float_ne {value : Binary64} {whole : Int} (found : value.toInt? = some whole) :
    (Value.float value).display ≠ toString whole := by
  have finite : value.isFinite = true := by
    rw [Binary64.toInt?] at found
    split at found
    · rename_i divides
      exact (Bool.and_eq_true_iff.mp divides).1
    · simp at found
  have outside (mark : Char) (strange : ¬ (mark.isDigit = true ∨ mark = '-')) :
      mark ∉ (toString whole).toList := fun member => strange (isDigit_or_minus_of_mem member)
  obtain ⟨-, marked⟩ := Decimal.Layout.display.numeric_writeBy Decimal.shortest finite
  intro same
  have written : Decimal.Layout.display.writeBy Decimal.shortest value = toString whole := same
  rw [written] at marked
  rcases marked with point | mark
  · exact outside '.' (by decide) point
  · exact outside 'e' (by decide) mark

theorem keptText_eq_iff : keptText value = plainText value ↔ isKeptAlike value = true := by
  cases value with
  | null => simp [keptText, plainText, isKeptAlike]
  | bool value =>
      cases value <;> simp [keptText, plainText, isKeptAlike, Value.display, Value.quoted]
  | int value => simp [keptText, plainText, isKeptAlike, Value.display, Value.quoted]
  | float value =>
      rw [keptText, if_neg Value.noConfusion]
      cases whole : value.toInt? with
      | none => simp [plainText, isKeptAlike, whole]
      | some number => simpa [plainText, isKeptAlike, whole] using display_float_ne whole
  | str text => simp [keptText, plainText, isKeptAlike, Value.display]
  | list items =>
      rw [keptText, if_neg Value.noConfusion]
      exact Value.quoted_eq_compact_iff
  | object fields =>
      rw [keptText, if_neg Value.noConfusion]
      exact Value.quoted_eq_compact_iff

end ListItem

namespace Builtin

/-! ### Lists of items -/

/-- The elements of items with these texts. -/
def itemElements (className : Value) : List String → String
  | [] => ""
  | text :: rest =>
      Markup.element "li" className (Markup.escape text) ++ itemElements className rest

variable {className key : Value} {items : List Value} {texts : List String}

theorem List.elements_eq (shown : items.map (ListItem.text key) = texts.map .ok) :
    List.elements className key items = .ok (itemElements className texts) := by
  induction items generalizing texts with
  | nil =>
      obtain rfl : texts = [] := by simpa using shown.symm
      rfl
  | cons item rest induction =>
      cases texts with
      | nil => simp at shown
      | cons text texts =>
          rw [List.map_cons, List.map_cons, List.cons.injEq] at shown
          rw [List.elements, shown.1, induction shown.2]
          rfl

theorem element_inj {tag body other : String} :
    Markup.element tag className body = Markup.element tag className other ↔ body = other := by
  rw [← String.toList_inj, toList_element, toList_element]
  simp [String.toList_inj]

/-- An item ends where its element does, as its text has no bracket. -/
theorem element_append_inj {first second rest others : String} :
    Markup.element "li" className (Markup.escape first) ++ rest =
        Markup.element "li" className (Markup.escape second) ++ others ↔
      first = second ∧ rest = others := by
  constructor
  · intro same
    rw [← String.toList_inj, String.toList_append, String.toList_append, toList_element,
      toList_element] at same
    simp only [List.cons_append, List.append_assoc, List.cons.injEq, true_and,
      List.append_cancel_left_eq] at same
    have closed (text : String) : '<' ∉ (Markup.escape text).toList :=
      Markup.not_mem_escape (by decide) text
    rw [Text.append_cons_inj (closed first) (closed second)] at same
    obtain ⟨body, behind⟩ := same
    refine ⟨Markup.escape_inj.mp (String.toList_inj.mp body), String.toList_inj.mp ?_⟩
    simpa using behind
  · rintro ⟨rfl, rfl⟩
    rfl

theorem itemElements_ne_empty (className : Value) (text : String) (rest : List String) :
    itemElements className (text :: rest) ≠ "" := by
  intro empty
  have chars := congrArg String.toList empty
  rw [itemElements, String.toList_append, toList_element] at chars
  exact List.cons_ne_nil _ _ chars

theorem itemElements_inj {others : List String} :
    itemElements className texts = itemElements className others ↔ texts = others := by
  constructor
  · intro same
    induction texts generalizing others with
    | nil =>
        cases others with
        | nil => rfl
        | cons text rest => exact absurd same.symm (itemElements_ne_empty className text rest)
    | cons text rest induction =>
        cases others with
        | nil => exact absurd same (itemElements_ne_empty className text rest)
        | cons other others =>
            obtain ⟨here, later⟩ := element_append_inj.mp same
            rw [here, induction later]
  · rintro rfl
    rfl

variable {args : RenderArgs} {params : Fields}

theorem List.render_eq (given : args.params = .object params)
    (listed : Fields.getD params "items" = .list items)
    (keyed : Fields.getD params "itemKey" = key)
    (shown : items.map (ListItem.text key) = texts.map .ok) :
    List.render args = .ok (Markup.element
      (if (Fields.getD params "ordered").truthy then "ol" else "ul") (Fields.getD params "class")
      (itemElements (Fields.getD params "itemClass") texts)) := by
  have members : ((Fields.getD params "items").orElse (.list [])).members = .ok items := by
    rw [listed]
    cases items <;> rfl
  simp only [List.render, param_ok given, members, keyed, List.elements_eq shown, bind,
    Except.bind, pure, Except.pure]

/-- Params of a list with these objects for items, each of which is shown by the value under a
key. -/
def underKey (params : Fields) (key : String) (objects : List Fields) : Fields :=
  Fields.insert (Fields.insert params "items" (.list (objects.map .object))) "itemKey" (.str key)

/-- Params of a list with these values for items, and without a key. -/
def onTheirOwn (params : Fields) (values : List Value) : Fields :=
  Fields.insert (Fields.erase params "itemKey") "items" (.list values)

section Params

variable (params : Fields) (key : String) (objects : List Fields) (values : List Value)

theorem getD_underKey (name : String) :
    Fields.getD (underKey params key objects) name = if "itemKey" = name then .str key
      else if "items" = name then .list (objects.map .object) else Fields.getD params name := by
  rw [Fields.getD, underKey, Fields.get?_insert, Fields.get?_insert]
  split
  · rfl
  · split <;> rfl

theorem getD_onTheirOwn (name : String) :
    Fields.getD (onTheirOwn params values) name = if "items" = name then .list values
      else if "itemKey" = name then .null else Fields.getD params name := by
  rw [Fields.getD, onTheirOwn, Fields.get?_insert, Fields.get?_erase]
  split
  · rfl
  · split <;> rfl

end Params

/-- An object that has the key of a list is shown as nothing for null and as the text of the value
in messages for any other one.  This is what the value shows as an item of its own just when it
is kept alike.  A list of objects with the key and the list of the values under it, with all other
params the same, are both rendered, and to the same markup just when all the values are kept
alike. -/
theorem keyed_items_alike_iff (key : String) (given : key ≠ "") :
    (∀ fields value, Fields.get? fields key = some value →
        ListItem.text (.str key) (.object fields) = .ok (ListItem.keptText value) ∧
          (ListItem.text (.str key) (.object fields) = ListItem.text .null value ↔
            ListItem.isKeptAlike value = true)) ∧
      ∀ (args : RenderArgs) (params : Fields) (entries : List (Fields × Value)),
        (∀ entry ∈ entries, Fields.get? entry.1 key = some entry.2) →
        ∃ keyed plain,
          List.render { args with
            params := .object (underKey params key (entries.map Prod.fst)) } = .ok keyed ∧
          List.render { args with
            params := .object (onTheirOwn params (entries.map Prod.snd)) } = .ok plain ∧
          (keyed = plain ↔ ∀ entry ∈ entries, ListItem.isKeptAlike entry.2 = true) := by
  constructor
  · intro fields value found
    have kept := ListItem.text_of_get? given found
    refine ⟨kept, ?_⟩
    rw [kept, ListItem.text_null, Except.ok.injEq]
    exact ListItem.keptText_eq_iff
  · intro args params entries found
    have keptTexts : ((entries.map Prod.fst).map Value.object).map (ListItem.text (.str key)) =
        (entries.map fun entry => ListItem.keptText entry.2).map .ok := by
      rw [List.map_map, List.map_map, List.map_map]
      exact List.map_congr_left fun entry member => ListItem.text_of_get? given (found entry member)
    have plainTexts : (entries.map Prod.snd).map (ListItem.text .null) =
        (entries.map fun entry => ListItem.plainText entry.2).map .ok := by
      rw [List.map_map, List.map_map]
      exact List.map_congr_left fun entry _ => ListItem.text_null entry.2
    refine ⟨_, _, List.render_eq rfl (getD_underKey params key _ "items")
        (getD_underKey params key _ "itemKey") keptTexts,
      List.render_eq rfl (getD_onTheirOwn params _ "items")
        (getD_onTheirOwn params _ "itemKey") plainTexts, ?_⟩
    have other (name : String) (notItems : "items" ≠ name) (notKey : "itemKey" ≠ name) :
        Fields.getD (underKey params key (entries.map Prod.fst)) name =
          Fields.getD (onTheirOwn params (entries.map Prod.snd)) name := by
      rw [getD_underKey, getD_onTheirOwn, if_neg notItems, if_neg notKey, if_neg notKey,
        if_neg notItems]
    rw [other "ordered" (by decide) (by decide), other "class" (by decide) (by decide),
      other "itemClass" (by decide) (by decide), element_inj, itemElements_inj, List.map_inj_left]
    exact forall₂_congr fun entry _ => ListItem.keptText_eq_iff

/-- Objects with a label, each with the value of its label. -/
def labels : List (Fields × Value) := [
  ([("label", "<x>")], "<x>"),
  ([("id", .int 7), ("label", .null)], .null),
  ([("label", .list ["it's"])], .list ["it's"])]

theorem keyed_items_alike_iff_labels :
    "label" ≠ "" ∧ (∀ entry ∈ labels, Fields.get? entry.1 "label" = some entry.2) ∧
      (∀ entry ∈ labels, ListItem.isKeptAlike entry.2 = true) ∧
      List.render ⟨[], .object (underKey [] "label" (labels.map Prod.fst)), "", .data .null⟩ =
        List.render ⟨[], .object (onTheirOwn [] (labels.map Prod.snd)), "", .data .null⟩ := by
  have given : "label" ≠ "" := by decide
  have found : ∀ entry ∈ labels, Fields.get? entry.1 "label" = some entry.2 := by decide
  have all : ∀ entry ∈ labels, ListItem.isKeptAlike entry.2 = true := by decide
  obtain ⟨-, rendered⟩ := keyed_items_alike_iff "label" given
  obtain ⟨keyed, plain, first, second, alike⟩ :=
    rendered ⟨[], .null, "", .data .null⟩ [] labels found
  refine ⟨given, found, all, ?_⟩
  rw [first, second, alike.mpr all]

/-- Under a key a truth value, a whole double and a list of two items are shown as in messages. -/
theorem keyed_truth_apart :
    ListItem.text "label" (.object [("label", .bool true)]) = .ok "True" ∧
      ListItem.text .null (.bool true) = .ok "true" ∧
      ListItem.text "label" (.object [("label", .float ⟨false, 1024, 0⟩)]) = .ok "2.0" ∧
      ListItem.text .null (.float ⟨false, 1024, 0⟩) = .ok "2" ∧
      ListItem.text "label" (.object [("label", .list [.int 1, .null])]) = .ok "[1, None]" ∧
      ListItem.text .null (.list [.int 1, .null]) = .ok "[1,null]" := by
  decide +kernel

end Builtin

end PageComposer
