import PageComposer.Proofs.Tree
import PageComposer.Schema.Finding

/-!
# What a schema finds nothing wrong with

For each kind of rule, the values that it lets pass.  `report_params_eq_nil_iff` puts them
together for the schemas of params: objects with known keys, some of which have to be
there.
-/

namespace PageComposer.Schema

theorem report_eq_nil_iff {schema : Schema} {value : Value} :
    schema.report value = [] ↔ schema.findings value = [] := by
  rw [report, inOrder, ← List.length_eq_zero_iff, List.length_mergeSort, List.length_eq_zero_iff]

theorem rulesFindings_eq_nil_iff {rules : List Rule} {value : Value} :
    rulesFindings rules value = [] ↔ ∀ rule ∈ rules, ruleFindings rule value = [] := by
  induction rules with
  | nil => simp [rulesFindings]
  | cons rule rest induction => simp [rulesFindings, induction]

theorem located_eq_nil_iff {step : String} {schema : Schema} {findings : List Finding} :
    located step schema findings = [] ↔ findings = [] := by
  cases schema <;> simp [located]

theorem propertyFindings_eq_nil_iff {schemas : List (String × Schema)} {fields : Fields} :
    propertyFindings schemas fields = [] ↔
      ∀ entry ∈ schemas, ∀ value, Fields.get? fields entry.1 = some value →
        findings entry.2 value = [] := by
  induction schemas with
  | nil => simp [propertyFindings]
  | cons entry rest induction =>
      obtain ⟨key, schema⟩ := entry
      cases found : Fields.get? fields key with
      | none => simp [propertyFindings, found, induction]
      | some value => simp [propertyFindings, found, induction, located_eq_nil_iff]

theorem unexpected_eq_nil_iff {keys : List String} : unexpected keys = [] ↔ keys = [] := by
  have sorted : (keys.mergeSort fun left right => left ≤ right) = [] ↔ keys = [] := by
    rw [← List.length_eq_zero_iff, List.length_mergeSort, List.length_eq_zero_iff]
  unfold unexpected
  split
  · rename_i none
    simpa using sorted.mp none
  · rename_i some
    rw [← sorted]
    simpa using some

/-! ### Rules -/

theorem type_eq_nil_iff {names : List TypeName} {value : Value} :
    ruleFindings (.type names) value = [] ↔ ∃ name ∈ names, name.admits value = true := by
  cases value <;> simp [ruleFindings, plainFindings]

theorem required_eq_nil_iff {names : List String} {fields : Fields} :
    ruleFindings (.required names) (.object fields) = [] ↔
      ∀ name ∈ names, Fields.has fields name = true := by
  simp [ruleFindings, plainFindings]

theorem noOthers_eq_nil_iff {known : List String} {fields : Fields} :
    ruleFindings (.otherProperties known .nothing) (.object fields) = [] ↔
      ∀ key ∈ Fields.keys fields, key ∈ known := by
  simp [ruleFindings, unexpected_eq_nil_iff, Fields.keys]

theorem oneOf_eq_nil_iff {choices : List String} {text : String} :
    ruleFindings (.oneOf (choices.map .str)) (.str text) = [] ↔ text ∈ choices := by
  have same (choice : String) :
      (Value.str choice).sameData (.str text) = true ↔ choice = text := by
    simp [Value.sameData, Value.sameUnder, Value.sameScalar, Value.number?]
  simp [ruleFindings, plainFindings, same]

/-! ### Schemas of params -/

/-- The schema of values of one type. -/
def ofType (name : TypeName) : Schema := .demands [.type [name]]

theorem ofType_eq_nil_iff {name : TypeName} {value : Value} :
    (ofType name).findings value = [] ↔ name.admits value = true := by
  simp [ofType, findings, rulesFindings_eq_nil_iff, type_eq_nil_iff]

/-- The schema of objects without unknown keys. -/
def ofParams (required : List String) (properties : List (String × Schema)) : Schema :=
  .demands ([.type [.object], .otherProperties (properties.map Prod.fst) .nothing]
    ++ (if required.isEmpty then [] else [.required required]) ++ [.properties properties])

theorem report_params_eq_nil_iff {required : List String}
    {properties : List (String × Schema)} {params : Value} :
    (ofParams required properties).report params = [] ↔
      ∃ fields, params = .object fields ∧
        (∀ key ∈ Fields.keys fields, key ∈ properties.map Prod.fst) ∧
        (∀ name ∈ required, Fields.has fields name = true) ∧
        ∀ entry ∈ properties, ∀ value, Fields.get? fields entry.1 = some value →
          findings entry.2 value = [] := by
  rw [report_eq_nil_iff, ofParams, findings, rulesFindings_eq_nil_iff]
  cases params with
  | object fields =>
      have properties (schemas : List (String × Schema)) :
          ruleFindings (.properties schemas) (.object fields) = [] ↔
            ∀ entry ∈ schemas, ∀ value, Fields.get? fields entry.1 = some value →
              findings entry.2 value = [] := by
        rw [ruleFindings, propertyFindings_eq_nil_iff]
      cases required with
      | nil =>
          simp only [List.isEmpty_nil, if_true, List.append_nil, List.cons_append,
            List.nil_append, List.forall_mem_cons, List.not_mem_nil, false_implies,
            implies_true, and_true, true_and, properties, noOthers_eq_nil_iff, type_eq_nil_iff]
          simp [TypeName.admits]
      | cons first others =>
          simp only [List.isEmpty_cons, Bool.false_eq_true, if_false, List.cons_append,
            List.nil_append, List.forall_mem_cons, List.not_mem_nil, false_implies,
            implies_true, and_true, properties, noOthers_eq_nil_iff, type_eq_nil_iff,
            required_eq_nil_iff]
          simp [TypeName.admits]
  | _ => simp [type_eq_nil_iff, TypeName.admits]

end PageComposer.Schema
