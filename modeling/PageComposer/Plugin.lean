import PageComposer.Fault
import PageComposer.Request

/-!
# Plugins

A plugin renders the nodes of one type.  It may have a schema for their params and
metadata of its own, and it may lack a body, in which case no node can be rendered
by it.  The body is a program: between its start and the result it gives it may
write to the journal, look at the registry, replace the allowlist or wait.
-/

namespace PageComposer

/-- What a plugin gives back: a text, or something of another kind, which is an error. -/
inductive Rendered where
  | text (text : String)
  | other (kind : String)
  deriving DecidableEq, Repr

/-- The kind of what a value is as a result. -/
def Rendered.ofValue : Value → Rendered
  | .str content => .text content
  | value => .other value.kind

/-- What a caller hands through the renderer to the plugins: plain data, or the record
that a request is composed on. -/
inductive RenderContext where
  | data (value : Value)
  | record (context : Context)
  deriving DecidableEq, Repr

namespace RenderContext

/-- What stands under a name in the context; null under an unknown name. -/
def entry (name : String) : RenderContext → Rendered
  | .data (.object fields) => .ofValue (Fields.getD fields name)
  | .data _ => .ofValue .null
  | .record context =>
      match name with
      | "tree" => .ofValue context.tree
      | "flags" => .ofValue context.flags
      | "locale" => .ofValue context.locale
      | "ab" => .ofValue context.bucket
      | "user_id" => .ofValue context.userId
      | "request" => .other "RequestInfo"
      | "extra" => .ofValue (.object [])
      | _ => .ofValue .null

end RenderContext

/-- What a plugin is given for a node: its children come rendered already. -/
structure RenderArgs where
  node : Fields
  params : Value
  children : String
  context : RenderContext
  deriving DecidableEq, Repr

/-- The program of a plugin for one node. -/
inductive RenderBody where
  | give (result : Rendered)
  | fail (fault : Fault)
  | note (entry : Value) (rest : RenderBody)
  /-- Look at the ids that are registered. -/
  | types (rest : List String → RenderBody)
  /-- Replace the allowlist of the registry that renders this very node. -/
  | setAllowlist (ids : Value) (rest : Outcome Unit → RenderBody)
  /-- Wait, so that others may act in the meantime. -/
  | pause (rest : RenderBody)

/-- A body that only computes. -/
def RenderBody.ofOutcome : Outcome String → RenderBody
  | .ok text => .give (.text text)
  | .error fault => .fail fault

/-- Metadata as it is handed in, nothing checked yet. -/
structure MetadataDraft where
  name : Value
  category : Value
  description : Value
  version : Value
  author : Value
  tags : Value
  configuration : Value
  deriving DecidableEq, Repr

namespace MetadataDraft

def keys : List String :=
  ["name", "category", "description", "version", "author", "tags", "configuration"]

/-- The draft of a plugin that says no more than its name. -/
def named (name : Value) : MetadataDraft where
  name := name
  category := .str "general"
  description := .str ""
  version := .str "1.0.0"
  author := .str "CMS Core Team"
  tags := .list []
  configuration := .object []

/-- A draft from entries, which win over the draft of a name. -/
def fill (name : Value) (entries : Fields) : MetadataDraft :=
  let draft := named name
  let entry (key : String) (default : Value) := (Fields.get? entries key).getD default
  { name := entry "name" draft.name
    category := entry "category" draft.category
    description := entry "description" draft.description
    version := entry "version" draft.version
    author := entry "author" draft.author
    tags := entry "tags" draft.tags
    configuration := entry "configuration" draft.configuration }

/-- The keys of entries that no draft has. -/
def unknown (entries : Fields) : List String :=
  (Fields.keys entries).filter fun key => !keys.contains key

/-- A draft from entries alone, which have to give the name. -/
def ofEntries (entries : Fields) : Outcome MetadataDraft :=
  if !(unknown entries).isEmpty || !Fields.has entries "name" then .error .wrongKind
  else .ok (fill .null entries)

end MetadataDraft

/-- The metadata of a registered plugin. -/
structure Metadata where
  name : String
  category : String
  description : Value
  version : Value
  author : Value
  tags : List Value
  configuration : Fields
  deriving DecidableEq, Repr

namespace Metadata

def refused (message : String) : Fault :=
  .problem (.registry message .pluginInvalidMetadata .null)

/-- A text that is not empty. -/
def properText (message : String) : Value → Outcome String
  | .str text => if text.isEmpty then .error (refused message) else .ok text
  | _ => .error (refused message)

/-- Check a draft. -/
def ofDraft (draft : MetadataDraft) : Outcome Metadata := do
  let name ← properText "Plugin metadata must have a valid name" draft.name
  let category ← properText "Plugin metadata must have a valid category" draft.category
  let tags ←
    match draft.tags with
    | .list tags => Except.ok tags
    | _ => .error (refused "Plugin metadata tags must be a list")
  let configuration ←
    match draft.configuration with
    | .object configuration => Except.ok configuration
    | _ => .error (refused "Plugin metadata must have a configuration mapping")
  return ⟨name, category, draft.description, draft.version, draft.author, tags, configuration⟩

/-- Metadata as data. -/
def toValue (metadata : Metadata) : Value :=
  .object [
    ("name", .str metadata.name),
    ("category", .str metadata.category),
    ("description", metadata.description),
    ("version", metadata.version),
    ("author", metadata.author),
    ("tags", .list metadata.tags),
    ("configuration", .object metadata.configuration)]

end Metadata

/-- The metadata argument of a registration. -/
inductive MetadataArgument where
  /-- The plugin's own metadata is taken, or the draft of its id. -/
  | absent
  | entries (fields : Fields)
  | draft (draft : MetadataDraft)
  /-- Neither entries nor a draft. -/
  | other
  deriving DecidableEq, Repr

/-- A plugin, nothing checked yet. -/
structure Plugin where
  id : Value
  schema : Value
  metadata : Option MetadataDraft
  body : Option (RenderArgs → RenderBody)

namespace Plugin

/-- What stands in for a candidate that has nothing of a plugin. -/
def blank : Plugin := ⟨.null, .null, none, none⟩

def renderable (plugin : Plugin) : Bool := plugin.body.isSome

end Plugin

end PageComposer
