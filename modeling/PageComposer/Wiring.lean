import PageComposer.Builtin
import PageComposer.Composition
import PageComposer.Database.Engine
import PageComposer.Service.Family

/-!
# Wiring

The services of a site and how they depend on each other.  All of them are made once
and shared, apart from the pipeline, of which each scope has its own.
-/

namespace PageComposer.Wiring

open Service

/-- What a service is. -/
inductive Content where
  | settings (settings : Settings)
  | engine
  | sessions
  | memoryPages
  | pageTable
  | unrestricted
  | activationFile
  | activationTable
  | registry (registry : Registry)
  /-- A renderer, by the serial of its registry. -/
  | markupRenderer (registry : Nat)
  | dataRenderer
  | pipeline (pipeline : Pipeline)

/-- A service as it was made; no two have the same serial. -/
structure Part where
  serial : Nat
  content : Content

/-- The recipes count the parts that are made. -/
abbrev Assembly := Recipe Nat Part

/-- Finish a part. -/
def finish (content : Content) : Assembly :=
  .read fun made => .write (made + 1) (.give ⟨made, content⟩)

def settingsId : Identifier := .ofText "Settings"

def engineId : Identifier := .ofText "DatabaseEngine"

def sessionsId : Identifier := .ofText "SessionFactory"

def pagesId : Identifier := .ofText "PagesRepository"

def pluginsId : Identifier := .ofText "PluginsRepository"

def registryId : Identifier := .ofText "PluginRegistry"

def markupId : Identifier := .ofText "HTMLRenderer"

def dataId : Identifier := .ofText "JSONRenderer"

def pipelineId : Identifier := .ofText "CompositionPipeline"

/-- All services that a site may have, in the order of their registration. -/
def ids : List Identifier :=
  [settingsId, engineId, sessionsId, pagesId, pluginsId, registryId, markupId, dataId, pipelineId]

/-- Go on with the settings. -/
def withSettings (rest : Settings → Assembly) : Assembly :=
  .require settingsId fun part =>
    match part.content with
    | .settings settings => rest settings
    | _ => .fail .wrongKind

/-- The engine of the database at the address of the settings. -/
def engine : Assembly :=
  withSettings fun settings =>
    match Database.Engine.ofAddress settings.databaseUrl with
    | .ok _ => finish .engine
    | .error fault => .fail fault

def pages : Assembly :=
  withSettings fun settings =>
    if settings.pagesBackend = "sql" then .require sessionsId fun _ => finish .pageTable
    else finish .memoryPages

def plugins : Assembly :=
  withSettings fun settings =>
    if settings.pluginsBackend = "file" then finish .activationFile
    else if settings.pluginsBackend = "sql" then
      .require sessionsId fun _ => finish .activationTable
    else finish .unrestricted

def registry : Assembly :=
  .require pluginsId fun _ =>
    match Builtin.addTo .empty with
    | .ok registry => finish (.registry registry)
    | .error fault => .fail fault

def markupRenderer : Assembly :=
  .require registryId fun part => finish (.markupRenderer part.serial)

def pipeline : Assembly :=
  withSettings fun settings => finish (.pipeline (Composition.pipeline none settings))

/-- Some backend is a database. -/
def usesDatabase (settings : Settings) : Bool :=
  settings.pagesBackend = "sql" || settings.pluginsBackend = "sql"

def pagesBackends : List String := ["memory", "sql"]

def pluginsBackends : List String := ["none", "file", "sql"]

/-- The backends have to be known ones. -/
def checkBackends (settings : Settings) : Outcome Unit :=
  if !pagesBackends.contains settings.pagesBackend then
    .error (.refusal (.unknownPagesBackend settings.pagesBackend))
  else if !pluginsBackends.contains settings.pluginsBackend then
    .error (.refusal (.unknownPluginsBackend settings.pluginsBackend))
  else .ok ()

/-- The services of a site with their recipes and lifetimes. -/
def services (settings : Settings) : List (Identifier × Assembly × Lifetime) :=
  (settingsId, finish (.settings settings), .singleton)
    :: (if usesDatabase settings then [
        (engineId, engine, .singleton),
        (sessionsId, .require engineId fun _ => finish .sessions, .singleton)]
      else [])
    ++ [
      (pagesId, pages, .singleton),
      (pluginsId, plugins, .singleton),
      (registryId, registry, .singleton),
      (markupId, markupRenderer, .singleton),
      (dataId, finish .dataRenderer, .singleton),
      (pipelineId, pipeline, .perScope)]

/-- Register services on the root. -/
def registerAll (family : Family Nat Part) :
    List (Identifier × Assembly × Lifetime) → Outcome (Family Nat Part)
  | [] => .ok family
  | (id, recipe, lifetime) :: rest => do
      registerAll (← family.register Handle.root id (.ofRecipe recipe) lifetime []) rest

/-- The containers of a site. -/
def build (settings : Settings) : Outcome (Family Nat Part) := do
  checkBackends settings
  registerAll (.start 0) (services settings)

end PageComposer.Wiring
