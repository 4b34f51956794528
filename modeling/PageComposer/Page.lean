import PageComposer.Page.Node

/-!
# Pages

A page is a version, its metadata and a root node.  The metadata may hold a slug, a
title and a locale, which are texts, and any entries besides.
-/

namespace PageComposer

/-- The metadata of a page. -/
structure PageMeta where
  slug : Option String
  title : Option String
  locale : Option String
  /-- The entries that have no meaning of their own. -/
  others : Fields

namespace PageMeta

def keys : List String := ["slug", "title", "locale"]

/-- Everything that keeps a value from being page metadata. -/
def violations (reading : Node.Reading) : Value → List Violation
  | .object fields =>
      if Node.hasUnreadableKey reading fields then [.here .notUnicode]
      else Node.optionalTextViolations fields "slug"
        ++ Node.optionalTextViolations fields "title"
        ++ Node.optionalTextViolations fields "locale"
  | _ => [.here (.notRecord "PageMeta")]

/-- The page metadata that a value is. -/
def ofValue? (reading : Node.Reading) : Value → Option PageMeta
  | .object fields => do
      if Node.hasUnreadableKey reading fields then none
      let slug ← Node.optionalText? fields "slug"
      let title ← Node.optionalText? fields "title"
      let locale ← Node.optionalText? fields "locale"
      return ⟨slug, title, locale, fields.filter fun entry => !keys.contains entry.1⟩
  | _ => none

/-- Metadata with its three known entries, null where it has none, and the others. -/
def toValue (info : PageMeta) : Value :=
  .object ([("slug", Node.optionalValue info.slug), ("title", Node.optionalValue info.title),
    ("locale", Node.optionalValue info.locale)] ++ info.others)

end PageMeta

/-- A page. -/
structure Page where
  version : String
  info : PageMeta
  root : Node

namespace Page

def keys : List String := ["version", "meta", "root"]

def versionViolations (reading : Node.Reading) : Value → List Violation
  | .str text =>
      if reading.isBroken text then [Violation.here .notUnicode]
      else if Version.accepts text then []
      else [Violation.here .notVersion]
  | _ => [Violation.here .notText]

/-- What is wrong with the value under a key that has to be there. -/
def requiredViolations (fields : Fields) (key : String)
    (violations : Value → List Violation) : List Violation :=
  let found : List Violation :=
    match Fields.get? fields key with
    | none => [Violation.here .missing]
    | some value => violations value
  found.map (.under key)

/-- Everything that keeps a value from being a page; its nodes are read in the given way. -/
def violations (reading : Node.Reading) : Value → List Violation
  | .object fields =>
      if Node.hasUnreadableKey reading fields then [.here .notUnicode]
      else requiredViolations fields "version" (versionViolations reading)
        ++ requiredViolations fields "meta" (PageMeta.violations reading)
        ++ requiredViolations fields "root" (Node.violations reading)
        ++ Node.unknownKeys keys fields
  | _ => [.here (.notRecord "Page")]

/-- The page that a value is; its nodes are read in the given way. -/
def ofValue? (reading : Node.Reading) : Value → Option Page
  | .object fields => do
      let .str version ← Fields.get? fields "version" | none
      let info ← (Fields.get? fields "meta").bind (PageMeta.ofValue? reading)
      let root ← (Fields.get? fields "root").bind (Node.ofValue? reading)
      if !Version.accepts version || !(Node.unknownKeys keys fields).isEmpty then none
      else some ⟨version, info, root⟩
  | _ => none

def toValue (page : Page) : Value :=
  .object [("version", .str page.version), ("meta", page.info.toValue),
    ("root", page.root.toValue)]

/-- A value that is not a page, with everything that is wrong with it. -/
def invalid (violations : List Violation) : Problem :=
  .invalidDocument "Invalid page" (.list (violations.map Violation.toValue)) .invalidPage

/-- The root of a value that is an object, null otherwise. -/
def rootOf : Value → Value
  | .object fields => Fields.getD fields "root"
  | _ => .null

/-- Read a value as a page, in a given way, or report everything that is wrong with it;
then read its root once more as a node of its own.  The page is itself a record that
stands around its nodes. -/
def validateBy (reading : Node.Reading) (value : Value) : Except Problem Page :=
  let inside := { reading with room := reading.room.map (· - 1) }
  match ofValue? inside value with
  | none => .error (invalid (violations inside value))
  | some page =>
      let root := rootOf value
      if root.truthy then (Node.validateBy reading root).map fun _ => page else .ok page

/-- Read a value as a page, or report everything that is wrong with it. -/
def validate : Value → Except Problem Page := validateBy .ofDocuments

end Page

end PageComposer
