import PageComposer.Page.Version
import PageComposer.Value

/-!
# Violations of the page grammar

A violation says what is wrong with a value, and by the keys and indices that lead
to it from the value under inspection, where it is.
-/

namespace PageComposer

/-- What is wrong with a value. -/
inductive Complaint where
  | missing
  | notText
  /-- A text with a surrogate on its own. -/
  | notUnicode
  | emptyText
  | notVersion
  | notObject
  | notList
  /-- The value should be an object of this kind. -/
  | notRecord (record : String)
  | nullChildren
  | unknownKey
  /-- Too many records stand around the value. -/
  | tooDeep
  deriving DecidableEq, Repr

namespace Complaint

/-- The machine-readable kind of a complaint. -/
def kind : Complaint → String
  | missing => "missing"
  | notText => "string_type"
  | notUnicode => "string_unicode"
  | emptyText => "string_too_short"
  | notVersion => "string_pattern_mismatch"
  | notObject => "dict_type"
  | notList => "list_type"
  | notRecord _ => "model_type"
  | nullChildren => "value_error"
  | unknownKey => "extra_forbidden"
  | tooDeep => "recursion_depth_exceeded"

def message : Complaint → String
  | missing => "Field required"
  | notText => "Input should be a valid string"
  | notUnicode =>
      "Input should be a valid string, unable to parse raw data as a unicode string"
  | emptyText => "String should have at least 1 character"
  | notVersion => "String should match pattern '" ++ Version.pattern ++ "'"
  | notObject => "Input should be a valid dictionary"
  | notList => "Input should be a valid list"
  | notRecord record => "Input should be a valid dictionary or instance of " ++ record
  | nullChildren => "Value error, children must be an array when present"
  | unknownKey => "Extra inputs are not permitted"
  | tooDeep => "Recursion error - maximum validation depth exceeded"

end Complaint

/-- A complaint and the keys and indices that lead to its place. -/
structure Violation where
  path : List String
  complaint : Complaint
  deriving DecidableEq, Repr

namespace Violation

/-- A complaint about the value under inspection itself. -/
def here (complaint : Complaint) : Violation := ⟨[], complaint⟩

/-- A violation inside the value under a key or index. -/
def under (step : String) (violation : Violation) : Violation :=
  { violation with path := step :: violation.path }

/-- The path in one text. -/
def pathText (violation : Violation) : String :=
  String.join (violation.path.map fun step => "/" ++ step)

/-- A violation as reports list it. -/
def toValue (violation : Violation) : Value :=
  .object [("path", .str violation.pathText),
    ("message", .str violation.complaint.message),
    ("type", .str violation.complaint.kind)]

end Violation

end PageComposer
