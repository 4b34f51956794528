import PageComposer.Display
import PageComposer.Schema
import PageComposer.Value.Equality

/-!
# Findings

`Schema.findings` lists everything that a schema finds wrong with a value: rule by
rule, and within a rule in the order of the schema's own lists.  A finding names the
place by the steps that lead to it; the findings of a schema that admits nothing
stay at the place of the object or list that the schema was asked from.
`Schema.report` puts the findings in the order of their places.
-/

namespace PageComposer

/-- One fault of a value, with the keyword of the rule it breaks. -/
structure Finding where
  path : List String
  message : String
  keyword : Option String
  deriving DecidableEq, Repr

namespace Finding

/-- A fault at the place of the value itself. -/
def here (message keyword : String) : Finding := ⟨[], message, some keyword⟩

/-- The same fault, seen from the value one step up. -/
def under (step : String) (finding : Finding) : Finding :=
  { finding with path := step :: finding.path }

/-- A finding as data. -/
def toValue (finding : Finding) : Value :=
  .object [
    ("path", .str (String.join (finding.path.map ("/" ++ ·)))),
    ("message", .str finding.message),
    ("keyword", (finding.keyword.map Value.str).getD .null)]

end Finding

namespace Measure

/-- How much of the measure a value has, if the measure speaks of it. -/
def of? : Measure → Value → Option Nat
  | .characters, .str text => some text.length
  | .items, .list list => some list.length
  | _, _ => none

def lowKeyword : Measure → String
  | characters => "minLength"
  | items => "minItems"

def highKeyword : Measure → String
  | characters => "maxLength"
  | items => "maxItems"

end Measure

namespace Bound

def keyword : Bound → String
  | least => "minimum"
  | greatest => "maximum"
  | above => "exclusiveMinimum"
  | below => "exclusiveMaximum"

/-- A number keeps to a limit. -/
def admits (bound : Bound) (number limit : Number) : Bool :=
  match bound with
  | least => !number.below limit
  | greatest => !limit.below number
  | above => !number.atMost limit
  | below => !limit.atMost number

def complaint : Bound → String
  | least => " is less than the minimum of "
  | greatest => " is greater than the maximum of "
  | above => " is less than or equal to the minimum of "
  | below => " is greater than or equal to the maximum of "

end Bound

namespace Schema

/-- Texts with a comma and a blank between them. -/
def commaList (texts : List String) : String := String.intercalate ", " texts

/-- What a rule without schemas in it finds. -/
def plainFindings (value : Value) : Rule → List Finding
  | .type names =>
      if names.any fun name => name.admits value then []
      else [.here (value.quoted ++ " is not of type "
        ++ commaList (names.map fun name => Text.quoted name.text)) "type"]
  | .oneOf choices =>
      if choices.any fun choice => choice.sameData value then []
      else [.here (value.quoted ++ " is not one of " ++ (Value.list choices).quoted) "enum"]
  | .exactly wanted =>
      if value.sameData wanted then []
      else [.here (wanted.quoted ++ " was expected") "const"]
  | .required names =>
      match value with
      | .object fields =>
          (names.filter fun name => !Fields.has fields name).map fun name =>
            .here (Text.quoted name ++ " is a required property") "required"
      | _ => []
  | .atLeast measure count =>
      match measure.of? value with
      | some size =>
          if count ≤ size then []
          else [.here (value.quoted
            ++ (if count = 1 then " should be non-empty" else " is too short")) measure.lowKeyword]
      | none => []
  | .atMost measure count =>
      match measure.of? value with
      | some size =>
          if size ≤ count then []
          else [.here (value.quoted
            ++ (if count = 0 then " is expected to be empty" else " is too long"))
              measure.highKeyword]
      | none => []
  | .bounded bound limit =>
      match value.number?, limit.number? with
      | some number, some number₂ =>
          if bound.admits number number₂ then []
          else [.here (value.quoted ++ bound.complaint ++ limit.quoted) bound.keyword]
      | _, _ => []
  | .properties _ | .otherProperties .. | .items _ => []

/-- The findings about a part of a value, seen from the whole. -/
def located (step : String) (schema : Schema) (findings : List Finding) : List Finding :=
  match schema with
  | .nothing => findings
  | _ => findings.map (.under step)

/-- Entries under keys that nothing admits, in the order of the keys. -/
def unexpected (keys : List String) : List Finding :=
  match keys.mergeSort fun left right => left ≤ right with
  | [] => []
  | names => [.here ("Additional properties are not allowed ("
      ++ commaList (names.map Text.quoted) ++ (if names.length = 1 then " was" else " were")
      ++ " unexpected)") "additionalProperties"]

/-- Items that nothing admits. -/
def superfluous : List Value → List Finding
  | [] => []
  | [item] => [.here ("Expected at most 0 items but found 1 extra: " ++ item.quoted) "items"]
  | items => [.here ("Expected at most 0 items but found " ++ toString items.length
      ++ " extra: " ++ (Value.list items).quoted) "items"]

mutual

/-- Everything that a schema finds wrong with a value. -/
def findings : Schema → Value → List Finding
  | .anything, _ => []
  | .nothing, value => [⟨[], "False schema does not allow " ++ value.quoted, none⟩]
  | .demands rules, value => rulesFindings rules value

def rulesFindings : List Rule → Value → List Finding
  | [], _ => []
  | rule :: rest, value => ruleFindings rule value ++ rulesFindings rest value

def ruleFindings : Rule → Value → List Finding
  | .properties schemas, .object fields => propertyFindings schemas fields
  | .otherProperties known schema, .object fields =>
      let others := fields.filter fun entry => !known.contains entry.1
      match schema with
      | .nothing => unexpected (Fields.keys others)
      | .anything => []
      | .demands rules => others.flatMap fun entry =>
          (rulesFindings rules entry.2).map (.under entry.1)
  | .items schema, .list items =>
      match schema with
      | .nothing => superfluous items
      | .anything => []
      | .demands rules => items.zipIdx.flatMap fun entry =>
          (rulesFindings rules entry.1).map (.under (toString entry.2))
  | rule, value => plainFindings value rule

/-- What the schemas of single entries find; an absent entry is not looked at. -/
def propertyFindings : List (String × Schema) → Fields → List Finding
  | [], _ => []
  | (key, schema) :: rest, fields =>
      (match Fields.get? fields key with
        | some value => located key schema (findings schema value)
        | none => [])
        ++ propertyFindings rest fields

end

/-- One path comes no later than another: steps are compared one by one as texts. -/
def pathAtMost : List String → List String → Bool
  | [], _ => true
  | _ :: _, [] => false
  | left :: lefts, right :: rights =>
      left < right || (left == right && pathAtMost lefts rights)

/-- Findings in the order of their places; at one place they keep their order. -/
def inOrder (findings : List Finding) : List Finding :=
  findings.mergeSort fun left right => pathAtMost left.path right.path

/-- What a schema finds wrong with a value, in the order of the places. -/
def report (schema : Schema) (value : Value) : List Finding := inOrder (findings schema value)

end Schema

end PageComposer
