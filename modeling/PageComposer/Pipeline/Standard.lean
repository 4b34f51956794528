import PageComposer.Bucket
import PageComposer.Flag
import PageComposer.Locale
import PageComposer.Pipeline

/-!
# The standard middlewares

Three middlewares make a page a visitor's own: one finds the locale, one the bucket,
and one removes the nodes whose flags are off.  Each fills in one field of the
context and continues.
-/

namespace PageComposer.Middleware

/-- Fill in the locale. -/
def locale (default : Value) : Middleware :=
  .update fun context => do
    let locale ← Locale.resolve (← context.request) default
    return { context with locale := locale }

/-- The labels of a bucket middleware; the default ones in place of a value that does
not count. -/
def bucketLabels (given : Value) : Outcome (List Value) :=
  if given.truthy then given.members else .ok Bucket.defaultLabels

/-- Fill in the bucket and the labels it was chosen from. -/
def bucket (standIns : Option Text.StandIns) (labels : List Value) (salt source : Value) :
    Middleware :=
  .update fun context => do
    let identity ← Bucket.identity context source
    let bucket ← Bucket.assign standIns identity salt (.list labels)
    return { context with
      bucket := .object [("bucket", bucket), ("buckets", .list labels)] }

/-- Where a flag gate gets the states of flags from. -/
inductive FlagSource where
  /-- The flags of the context. -/
  | context
  /-- The same flags whatever the context. -/
  | fixed (flags : Value)
  /-- The flags that a value holds are on: items of a list, keys of an object, or parts of
  a text. -/
  | enabled (names : Value)
  deriving DecidableEq, Repr

/-- The state of a flag under a source. -/
def FlagSource.check (source : FlagSource) (context : Context) : Flag.Check := fun name =>
  match source with
  | .context => do
      return (← (context.flags.orElse (.object [])).lookup name).truthy
  | .fixed flags => do return (← flags.lookup name).truthy
  | .enabled names =>
      match names with
      | .list names => .ok (names.contains (.str name))
      | .object fields => .ok (Fields.has fields name)
      | .str text => .ok (Text.contains text name)
      | _ => .error .wrongKind

/-- Remove the nodes whose flags are off. -/
def flagGate (source : FlagSource) : Middleware :=
  .update fun context =>
    if context.tree.truthy then do
      let (tree, _) ← Flag.prune (source.check context) context.tree
      return { context with tree := tree.getD .null }
    else .ok context

end PageComposer.Middleware
