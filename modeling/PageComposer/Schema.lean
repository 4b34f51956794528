import PageComposer.Value
import PageComposer.Number

/-!
# Schemas

A schema says which values are valid: all, none, or those that satisfy every rule
of a list.  `Schema.ofValue?` reads the data form, an object whose keywords give the
rules in order.  Keywords that only describe are checked and give no rule, what is no
keyword of the standard is passed over, and a malformed keyword spoils the schema.

The standard has more keywords than there are rules here.  `Schema.isFamiliar` says of a
data form that it has none of these; the others are left to a `Schema.Library`.
-/

namespace PageComposer

/-- The kinds of values that schemas tell apart. -/
inductive TypeName where
  | array
  | boolean
  | integer
  | null
  | number
  | object
  | string
  deriving DecidableEq, Repr

namespace TypeName

def all : List TypeName := [array, boolean, integer, null, number, object, string]

def text : TypeName → String
  | array => "array"
  | boolean => "boolean"
  | integer => "integer"
  | null => "null"
  | number => "number"
  | object => "object"
  | string => "string"

def ofText? (text : String) : Option TypeName := all.find? fun name => name.text = text

/-- A value is of a kind; a double without a fraction is an integer as well. -/
def admits : TypeName → Value → Bool
  | array, .list _ => true
  | boolean, .bool _ => true
  | integer, .int _ => true
  | integer, .float value => value.toInt?.isSome
  | null, .null => true
  | number, .int _ => true
  | number, .float _ => true
  | object, .object _ => true
  | string, .str _ => true
  | _, _ => false

end TypeName

/-- What is counted. -/
inductive Measure where
  | characters
  | items
  deriving DecidableEq, Repr

/-- The four ways to bound a number. -/
inductive Bound where
  | least
  | greatest
  | above
  | below
  deriving DecidableEq, Repr

mutual

/-- Which values are valid. -/
inductive Schema where
  | anything
  | nothing
  | demands (rules : List Rule)
  deriving Repr

/-- One demand on a value; a value of another kind than the rule speaks of passes. -/
inductive Rule where
  | type (names : List TypeName)
  | oneOf (choices : List Value)
  | exactly (value : Value)
  | required (names : List String)
  | properties (schemas : List (String × Schema))
  /-- The entries under keys that are not among the known ones. -/
  | otherProperties (known : List String) (schema : Schema)
  | items (schema : Schema)
  | atLeast (measure : Measure) (count : Nat)
  | atMost (measure : Measure) (count : Nat)
  | bounded (bound : Bound) (limit : Value)
  deriving Repr

end

namespace Schema

/-- All texts of a list, if it holds nothing else. -/
def texts? : List Value → Option (List String)
  | [] => some []
  | .str text :: rest => (texts? rest).map (text :: ·)
  | _ => none

/-- A list of texts that are all different. -/
def distinctTexts? : Value → Option (List String)
  | .list items => (texts? items).filter fun texts => texts.eraseDups.length = texts.length
  | _ => none

/-- The wanted types: one name, or a list of different ones that is not empty. -/
def typeNames? : Value → Option (List TypeName)
  | .str text => (TypeName.ofText? text).map ([·])
  | value => do
      let names ← (← distinctTexts? value).mapM TypeName.ofText?
      if names.isEmpty then none else some names

/-- A count: an integer from zero on, or a double that is one. -/
def count? (value : Value) : Option Nat := do
  let whole ← (← value.number?).toInt?
  if whole < 0 then none else some whole.toNat

/-- The key under which a schema may name its dialect. -/
def dialectKey : String := "$schema"

/-- The dialect whose keywords are meant. -/
def dialect : String := "https://json-schema.org/draft/2020-12/schema"

/-- Keywords of the dialect that have no rule here. -/
def unfamiliar : List String :=
  ["$id", "$ref", "$anchor", "$dynamicRef", "$dynamicAnchor", "$vocabulary", "$defs",
    "prefixItems", "contains", "patternProperties", "dependentSchemas", "propertyNames",
    "if", "then", "else", "allOf", "anyOf", "oneOf", "not", "unevaluatedItems",
    "unevaluatedProperties", "multipleOf", "pattern", "uniqueItems", "maxContains",
    "minContains", "maxProperties", "minProperties", "dependentRequired", "contentSchema",
    "definitions", "dependencies", "$recursiveAnchor", "$recursiveRef"]

/-- The rule of a keyword whose value holds no schemas.  There is none for a keyword that only
describes, nor for what is no keyword; a keyword that is not familiar is not read. -/
def plainRule? (keyword : String) (value : Value) : Option (Option Rule) :=
  let bounded (bound : Bound) := value.number?.map fun _ => some (Rule.bounded bound value)
  let atLeast (measure : Measure) := (count? value).map fun count => some (Rule.atLeast measure count)
  let atMost (measure : Measure) := (count? value).map fun count => some (Rule.atMost measure count)
  let describes (proper : Bool) : Option (Option Rule) := if proper then some none else none
  match keyword with
  | "type" => (typeNames? value).map fun names => some (.type names)
  | "enum" =>
      match value with
      | .list choices => some (some (.oneOf choices))
      | _ => none
  | "const" => some (some (.exactly value))
  | "required" => (distinctTexts? value).map fun names => some (.required names)
  | "minLength" => atLeast .characters
  | "maxLength" => atMost .characters
  | "minItems" => atLeast .items
  | "maxItems" => atMost .items
  | "minimum" => bounded .least
  | "maximum" => bounded .greatest
  | "exclusiveMinimum" => bounded .above
  | "exclusiveMaximum" => bounded .below
  | "title" | "description" | "$comment" | "format" | "contentEncoding" | "contentMediaType" =>
      describes (TypeName.string.admits value)
  | "examples" => describes (TypeName.array.admits value)
  | "deprecated" | "readOnly" | "writeOnly" => describes (TypeName.boolean.admits value)
  | "$schema" => describes (value = .str dialect)
  | _ => describes (!unfamiliar.contains keyword)

/-- The keys that the `properties` of a schema name. -/
def knownKeys (fields : Fields) : List String :=
  match Fields.get? fields "properties" with
  | some (.object properties) => Fields.keys properties
  | _ => []

mutual

/-- The schema that a value is the data form of. -/
def ofValue? : Value → Option Schema
  | .bool true => some .anything
  | .bool false => some .nothing
  | .object fields => (rulesOf? (knownKeys fields) fields).map .demands
  | _ => none

/-- The rules of the keywords of an object. -/
def rulesOf? (known : List String) : List (String × Value) → Option (List Rule)
  | [] => some []
  | (keyword, value) :: rest =>
      let first : Option (Option Rule) :=
        if keyword = "properties" then
          match value with
          | .object properties => (propertiesOf? properties).map (some ∘ Rule.properties)
          | _ => none
        else if keyword = "additionalProperties" then
          (ofValue? value).map (some ∘ Rule.otherProperties known)
        else if keyword = "items" then (ofValue? value).map (some ∘ Rule.items)
        else plainRule? keyword value
      first.bind fun first => (rulesOf? known rest).map (first.toList ++ ·)

/-- The schemas of an object of schemas, under their keys. -/
def propertiesOf? : List (String × Value) → Option (List (String × Schema))
  | [] => some []
  | (key, value) :: rest => do
      let schema ← ofValue? value
      let others ← propertiesOf? rest
      return (key, schema) :: others

end

mutual

/-- Every keyword in a schema, at whatever depth, is read here. -/
def isFamiliar : Value → Bool
  | .object fields => areFamiliar fields
  | _ => true

/-- Every keyword of an object is read here, in the schemas that it holds as well. -/
def areFamiliar : List (String × Value) → Bool
  | [] => true
  | (keyword, value) :: rest =>
      (if keyword = "properties" then
        match value with
        | .object properties => holdFamiliar properties
        | _ => true
      else if keyword = "additionalProperties" ∨ keyword = "items" then isFamiliar value
      else if keyword = dialectKey then value = .str dialect
      else !unfamiliar.contains keyword)
        && areFamiliar rest

/-- Every schema under a key is read here. -/
def holdFamiliar : List (String × Value) → Bool
  | [] => true
  | (_, value) :: rest => isFamiliar value && holdFamiliar rest

end

end Schema

end PageComposer
