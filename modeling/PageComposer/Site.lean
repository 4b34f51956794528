import PageComposer.Http.Answer
import PageComposer.Http.Message
import PageComposer.Repository.ActivationFile
import PageComposer.Repository.ActivationTable
import PageComposer.Repository.PageTable
import PageComposer.Submission
import PageComposer.Wiring

/-!
# Sites

A site answers HTTP requests: it composes stored pages, renders submissions and says
that it is alive.  Its pages are in memory or in a table; which plugins it may use is
read, when it starts and on demand, from nowhere, a file or a table.  The tables are
made when the site starts, and until then nothing can be stored in them or found.  A fault
of the database is found by each one who asks it something.

`Site.serve` gives everything that a request brings about: the answer, the id of the
request, the unexpected fault that leaves the site, and the line of the access log.
-/

namespace PageComposer

inductive PageStore where
  | memory (pages : MemoryPages)
  /-- A table, none before it is made. -/
  | table (pages : Option PageTable)
  deriving DecidableEq, Repr

/-- Make the table if it is not there. -/
def PageStore.start : PageStore → PageStore
  | memory pages => .memory pages
  | table pages => .table (some (pages.getD .empty))

/-- Where a site learns which plugins are active. -/
inductive ActivationSource where
  | nowhere
  | file (file : ActivationFile)
  /-- A table, none before it is made. -/
  | table (table : Option ActivationTable)
  deriving DecidableEq, Repr

/-- Make the table if it is not there. -/
def ActivationSource.start : ActivationSource → ActivationSource
  | table plugins => .table (some (plugins.getD .empty))
  | source => source

structure Site where
  settings : Settings
  pages : PageStore
  activation : ActivationSource
  hub : Hub

namespace Site

/-- A site with the built-in plugins; `file` is the file of active plugins.  A table of
plugins needs an engine at once, a table of pages when it is asked. -/
def build (settings : Settings) (file : ActivationFile) : Outcome Site := do
  Wiring.checkBackends settings
  if settings.pluginsBackend = "sql" then
    let _ ← Database.Engine.ofAddress settings.databaseUrl
  return {
    settings := settings
    pages := if settings.pagesBackend = "sql" then .table none else .memory .seeded
    activation :=
      if settings.pluginsBackend = "file" then .file file
      else if settings.pluginsBackend = "sql" then .table none
      else .nowhere
    hub := .of (← Builtin.addTo .empty) }

/-- Make a change of the registry. -/
def perform (site : Site) (change : Change) : Outcome Unit × Site :=
  let (outcome, hub) := site.hub.perform .silent change
  (outcome, { site with hub := hub })

/-- The engine of the database. -/
def engine (site : Site) : Outcome Database.Engine :=
  Database.Engine.ofAddress site.settings.databaseUrl

/-- Reach a table; one that is not made has this fault. -/
def reach {Table : Type} (site : Site) (table : Option Table) (unmade : Fault) :
    Outcome Table := do
  (← site.engine).connect
  match table with
  | some table => return table
  | none => .error unmade

/-- The page under a slug, null if there is none. -/
def findPage (site : Site) (slug : String) : Outcome Value :=
  match site.pages with
  | .memory pages => pages.find (.str slug)
  | .table table => do (← site.reach table (PageTable.unmade (.str slug))).find (.str slug)

/-- Store a page under the slug of its metadata. -/
def addPage (site : Site) (page : Value) : Outcome Site :=
  match site.pages with
  | .memory pages => return { site with pages := .memory (← pages.add page .null) }
  | .table table => do
      let _ ← site.engine
      let wanted ← PageTable.rowOf page
      let table ← site.reach table (PageTable.unmade (.str wanted.slug))
      return { site with pages := .table (some (table.store wanted)) }

/-- The active ids, null when all are; nothing without a source.  A file has to keep within
limits. -/
def listed (site : Site) (limits : Json.Limits) : Option (Outcome Value) :=
  match site.activation with
  | .nowhere => none
  | .file config => some (config.listWithin limits)
  | .table table => some do
      let table ← site.reach table (ActivationTable.unmade ActivationTable.listQuestion [])
      return .list (table.listActive.map .str)

/-- Read the allowlist from its source when so many steps of work are under way. -/
def loadAllowlistUnder (steps : Nat) (site : Site) : Outcome Value × Site :=
  let (outcome, hub) :=
    site.hub.loadAllowlist .silent ((site.listed (.under steps)).map Listing.ofOutcome)
  (outcome, { site with hub := hub })

/-- How many steps of work are under way when the allowlist is read on demand. -/
def demandSteps : Nat := 20

/-- How many steps of work are under way when a site that starts reads the allowlist. -/
def startSteps : Nat := 23

/-- Read the allowlist from its source. -/
def loadAllowlist : Site → Outcome Value × Site := loadAllowlistUnder demandSteps

/-- Open the database, if there is one. -/
def connect (site : Site) : Outcome Unit := do
  if Wiring.usesDatabase site.settings then (← site.engine).connect

/-- Start a site: make its tables and read the allowlist. -/
def start (site : Site) : Outcome Value × Site :=
  match site.connect with
  | .error fault => (.error fault, site)
  | .ok () =>
      loadAllowlistUnder startSteps
        { site with pages := site.pages.start, activation := site.activation.start }

/-- The site keeps in a table which plugins are active. -/
def tabulates (site : Site) : Bool :=
  match site.activation with
  | .table _ => true
  | _ => false

/-- Say in the table of plugins whether one is active. -/
def setActive (site : Site) (id active : Value) : Outcome Site :=
  match site.activation with
  | .table table => do
      let wanted ← ActivationTable.wantedId id
      let table ← site.reach table (ActivationTable.unmade ActivationTable.rowQuestion [wanted])
      let after ← table.setActive id active
      return { site with activation := .table (some after) }
  | _ => .error .notAnObject

open Http

/-- What a site answers to. -/
inductive Route where
  | page (slug : String)
  | render
  | health
  /-- The pages that describe the site itself, which this library leaves blank. -/
  | description
  deriving DecidableEq, Repr

namespace Route

def pagesPath : String := "/v1/pages/"

/-- The paths of the routes that have one. -/
def fixed : List (String × Route) := [
  ("/openapi.json", description), ("/docs", description),
  ("/docs/oauth2-redirect", description), ("/redoc", description),
  ("/v1/render", render), ("/health", health)]

/-- The route of a path.  A line break may follow the path of a route, and a slug is any
text without slashes. -/
def ofPath? (path : String) : Option Route :=
  let named := fixed.find? fun entry => path = entry.1 || path = entry.1 ++ "\n"
  match named with
  | some (_, route) => some route
  | none =>
      if pagesPath.toList.isPrefixOf path.toList then
        let slug := path.toList.drop pagesPath.length
        if slug.isEmpty || slug.contains '/' then none else some (.page (String.ofList slug))
      else none

/-- The methods that a route is asked with. -/
def methods : Route → List String
  | page _ | health => ["GET"]
  | render => ["POST"]
  | description => ["GET", "HEAD"]

/-- A path without the slashes at its end. -/
def withoutSlashes (path : String) : String :=
  String.ofList (path.toList.reverse.dropWhile (· = '/')).reverse

/-- A path that is that of a route apart from slashes at its end. -/
def misses (path : String) : Bool :=
  path ≠ "/" && path ≠ withoutSlashes path && (ofPath? (withoutSlashes path)).isSome

end Route

/-- A stored page, composed for the request; what comes in with a request is made of
bytes, and nothing in it stands in for a surrogate. -/
def composePage (site : Site) (slug : String) (request : Request) : Outcome Answer := do
  match ← site.findPage slug with
  | .null => .error (.problem (.pageNotFound (.str slug)))
  | page =>
      let context ← Composition.context page request
      Answer.ofPage (← Composition.compose none page context
        (Composition.pipeline none site.settings))

/-- How many steps of work are under way when the data of an answer is copied. -/
def servingSteps : Nat := 32

/-- Report a fault; an unexpected one goes on. -/
def report (path : String) : Outcome Answer → Outcome Answer
  | .ok answer => .ok answer
  | .error fault => do Answer.ofReport (← Report.ofFault path fault)

/-- The rendering of a submission, as markup or as data. -/
def renderSubmission (site : Site) (incoming : Incoming) : Outcome Answer × Site :=
  match incoming.objectBody with
  | .error fault =>
      (Answer.ofReport (.ofBody incoming.shownPath fault), site)
  | .ok body =>
      let asked : Outcome (Submission × Bool) := do
        let submission ← Submission.ofBody body.reading body.value
        let accept := ((incoming.header? "accept").map Value.str).getD .null
        let markup ← Submission.wantsMarkup (Fields.getD incoming.query "format") accept
        return (submission, markup)
      let (outcome, after) : Outcome Answer × Site :=
        match asked with
        | .error fault => (.error fault, site)
        | .ok (submission, false) =>
            ((submission.valueUnder servingSteps).bind (Answer.ofData (.int 200)), site)
        | .ok (submission, true) =>
            let (outcome, hub) := submission.toMarkup site.hub incoming.toRequest
            (outcome.map Answer.ofMarkup, { site with hub := hub })
      ((report incoming.shownPath outcome).bind (Answer.sent body.standIns), after)

/-- What a site makes of a request, before errors are reported. -/
def respond (site : Site) (incoming : Incoming) : Outcome Answer × Site :=
  match Route.ofPath? incoming.path with
  | none =>
      if Route.misses incoming.path then (.ok ⟨.int 307, .nothing⟩, site)
      else (.error (.http (.int 404) "Not Found"), site)
  | some route =>
      if !route.methods.contains incoming.method then
        (.error (.http (.int 405) "Method Not Allowed"), site)
      else
        match route with
        | .page slug => (composePage site slug incoming.toRequest, site)
        | .render => renderSubmission site incoming
        | .health => (Answer.ofData (.int 200) (.object [("ok", .bool true)]), site)
        | .description => (.ok ⟨.int 200, .markup ""⟩, site)

/-- The id of a request. -/
inductive RequestId where
  | given (id : String)
  | generated
  deriving DecidableEq, Repr

/-- The id that a request brings, or a new one. -/
def RequestId.of (incoming : Incoming) : RequestId :=
  match incoming.header? "x-request-id" with
  | none | some "" => .generated
  | some id => .given id

/-- Everything that a request brings about. -/
structure Exchange where
  answer : Answer
  /-- An unexpected fault is answered without it. -/
  requestId : Option RequestId
  raised : Option Fault
  access : List Access
  deriving DecidableEq, Repr

/-- Requests for signs of life leave no line in the access log. -/
def accessLog (access : Access) : List Access := if access.path = "/health" then [] else [access]

/-- The exchange that an outcome comes to. -/
def settle (incoming : Incoming) (outcome : Outcome Answer) : Exchange :=
  let path := incoming.shownPath
  let line (status : Value) (error : String) := accessLog ⟨incoming.method, path, status, error⟩
  match report path outcome with
  | .ok answer => ⟨answer, some (.of incoming), none, line answer.status ""⟩
  | .error fault =>
      let status : Value := .int 500
      let generic := Report.generic status path
      ⟨⟨status, .data generic.toValue⟩, none, some fault, line status fault.message⟩

/-- Answer a request. -/
def serve (site : Site) (incoming : Incoming) : Exchange × Site :=
  let (outcome, after) := respond site incoming
  (settle incoming outcome, after)

end Site

end PageComposer
