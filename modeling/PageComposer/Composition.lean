import PageComposer.Page
import PageComposer.Pipeline.Standard
import PageComposer.Settings

/-!
# Composition

A page is composed for a request by running a pipeline over a context that holds the
page's root.  The composed page has the root that the pipeline leaves, and metadata
with the locale and the bucket; it has to be a valid page again.
-/

namespace PageComposer.Composition

/-- The flags that a header turns on: names with commas between them, blanks around
them, each once. -/
def flagNames (header : String) : List String :=
  (((Text.pieces ',' header).map Text.strip).filter fun name => !name.isEmpty).eraseDups

/-- The flags of a header, all of them on. -/
def flagsOfHeader (value : Value) : Outcome Fields :=
  if !value.truthy then .ok []
  else do return (flagNames (← value.text)).map fun name => (name, .bool true)

/-- The pipeline of a site, for requests with these characters for surrogates. -/
def pipeline (standIns : Option Text.StandIns) (settings : Settings) : Pipeline where
  stack := [
    .locale (.str settings.defaultLocale),
    .bucket standIns (if settings.buckets.isEmpty then Bucket.defaultLabels
      else settings.buckets.map .str) (.str settings.bucketSalt) (.str "user-id"),
    .flagGate .context]

/-- The context of a page for a request. -/
def context (page : Value) (request : Request) : Outcome Context := do
  let flags ← flagsOfHeader (request.header "x-flags" .null)
  return { Context.ofRequest request with
    userId := request.header "x-user-id" .null
    flags := .object flags
    tree := ← page.lookup "root" }

/-- The label of the bucket that a context holds, null when it holds none. -/
def label (bucket : Value) : Outcome Value :=
  if !bucket.truthy then .ok .null
  else
    match bucket with
    | .object fields =>
        match Fields.get? fields "bucket" with
        | some label => .ok label
        | none => .error (.misuse .missingKey)
    | _ => .error .wrongKind

/-- The entries of a value that is spread into an object. -/
def spread : Value → Outcome Fields
  | .object fields => .ok fields
  | _ => .error .wrongKind

/-- The page with what a context holds after the pipeline. -/
def merge (page : Value) (context : Context) : Outcome Value := do
  let fields ← spread page
  let info ← spread ((Fields.get? fields "meta").getD (.object []))
  let label ← label context.bucket
  let info := Fields.insert (Fields.insert info "locale" context.locale) "ab" label
  return .object (Fields.insert (Fields.insert fields "root" context.tree) "meta" (.object info))

/-- Compose a page in a context, with these characters for surrogates in both. -/
def compose (standIns : Option Text.StandIns) (page : Value) (context : Context)
    (pipeline : Pipeline) : Outcome Value := do
  let (outcome, passage) := pipeline.run .none context []
  outcome
  let composed ← merge page passage.context
  match Page.validateBy (.ofDocumentsWith standIns) composed with
  | .ok _ => return composed
  | .error problem => .error (.problem problem)

end PageComposer.Composition
