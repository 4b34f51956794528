import PageComposer.Wiring

/-!
# A survey of the wiring

Which services a site has, which repositories they lead to, and which parts are shared:
the renderer uses the registry of its root, each scope has one pipeline of its own, the
root makes a new one every time, and after disposal all is made anew.
-/

namespace PageComposer.Wiring

open Service

namespace Content

/-- The name that hosts know a repository by. -/
def repositoryName : Content → String
  | .memoryPages => "InMemoryPagesRepository"
  | .pageTable => "SqlPagesRepository"
  | .activationFile => "FilePluginsRepository"
  | .activationTable => "SqlPluginsRepository"
  | _ => "NoneType"

/-- The plugin types of a registry. -/
def types : Content → List String
  | .registry held => held.types
  | _ => []

/-- The serial of the registry of a renderer. -/
def registrySerial? : Content → Option Nat
  | .markupRenderer serial => some serial
  | _ => none

/-- How many middlewares a pipeline has. -/
def pipelineLength : Content → Nat
  | .pipeline held => held.length
  | _ => 0

end Content

/-- What a site is wired from. -/
structure Survey where
  usesDatabase : Bool
  registered : List Identifier
  pages : String
  plugins : String
  types : List String
  sharedRegistry : Bool
  pipelineLength : Nat
  /-- A scope gives the same pipeline twice. -/
  scopedSame : Bool
  /-- Two scopes give different pipelines. -/
  scopedDiffers : Bool
  /-- The root gives a new pipeline each time. -/
  rootFresh : Bool
  /-- After disposal the root makes a new registry. -/
  newAfterDispose : Bool
  deriving DecidableEq

/-- A survey as data. -/
def Survey.toValue (survey : Survey) : Value :=
  let texts (items : List String) : Value := .list (items.map .str)
  .object [
    ("uses_database", .bool survey.usesDatabase),
    ("registered", texts (survey.registered.map Identifier.text)),
    ("pages", .str survey.pages),
    ("plugins", .str survey.plugins),
    ("types", texts survey.types),
    ("shared_registry", .bool survey.sharedRegistry),
    ("pipeline_len", .int survey.pipelineLength),
    ("scoped_same", .bool survey.scopedSame),
    ("scoped_differs", .bool survey.scopedDiffers),
    ("root_fresh", .bool survey.rootFresh),
    ("new_after_dispose", .bool survey.newAfterDispose)]

/-- Survey the wiring that settings lead to. -/
def survey (settings : Settings) : Outcome Survey := do
  let root := Handle.root
  let family ← build settings
  let (first, family) := family.createScope root
  let (second, family) := family.createScope root
  let (pages, family) ← family.obtain root pagesId
  let (plugins, family) ← family.obtain root pluginsId
  let (registry, family) ← family.obtain root registryId
  let (renderer, family) ← family.obtain root markupId
  let (once, family) ← family.obtain first pipelineId
  let (twice, family) ← family.obtain first pipelineId
  let (other, family) ← family.obtain second pipelineId
  let (fresh, family) ← family.obtain root pipelineId
  let (again, family) ← family.obtain root pipelineId
  let (renewed, _) ← (family.dispose root).obtain root registryId
  return {
    usesDatabase := usesDatabase settings
    registered := ids.filter (family.isRegistered root)
    pages := pages.content.repositoryName
    plugins := plugins.content.repositoryName
    types := registry.content.types
    sharedRegistry := renderer.content.registrySerial? == some registry.serial
    pipelineLength := once.content.pipelineLength
    scopedSame := once.serial == twice.serial
    scopedDiffers := once.serial != other.serial
    rootFresh := fresh.serial != again.serial
    newAfterDispose := renewed.serial != registry.serial }

end PageComposer.Wiring
