import PageComposer.Registry.Delivery

/-!
# Rendering

The renderer walks a tree from the top.  For each node it asks whether the type is
allowed, whether its plugin can render and whether the params are valid, then
renders the children in order, and last calls the plugin with their concatenation.
The first failure ends the walk, and there is no partial result.

A walk is not alone: where a plugin waits, others may change the registry.  The
changes that happen at the waiting points, one group a point, are part of the state.
-/

namespace PageComposer

/-- What a walk works on. -/
structure Session where
  hub : Hub
  /-- What others do at the waiting points to come. -/
  schedule : List (List Change)

/-- A walk, which keeps what it did even if it fails. -/
abbrev Walk := Program Session

namespace Renderer

/-- Make a change in the middle of a walk. -/
def perform (audience : Audience) (change : Change) : Walk (Outcome Unit) := do
  let session ← get
  let (outcome, hub) := session.hub.perform audience change
  set { session with hub := hub }
  return outcome

/-- Let others act. -/
def wait (audience : Audience) : Walk Unit := do
  let session ← get
  match session.schedule with
  | [] => return ()
  | changes :: later =>
      set { session with
        hub := changes.foldl (fun hub change => (hub.perform audience change).2) session.hub
        schedule := later }

/-- Run the program of a plugin. -/
def run (audience : Audience) : RenderBody → Walk Rendered
  | .give result => return result
  | .fail fault => throw fault
  | .note entry rest => do
      modify fun session => { session with hub := session.hub.write entry }
      run audience rest
  | .types rest => do run audience (rest (← get).hub.registry.types)
  | .setAllowlist ids rest => do
      run audience (rest (← perform audience (.setAllowlist ids)))
  | .pause rest => do
      wait audience
      run audience rest

/-- Enter a node: the body that renders it, if nothing speaks against it. -/
def enter (type params : Value) : Walk (RenderArgs → RenderBody) := do
  let registry := (← get).hub.registry
  if !(← registry.isAllowed type) then throw (.problem (.pluginNotAllowed type))
  let some body := (← registry.lookup type).bind fun registration => registration.plugin.body
    | throw (.problem (.pluginMissing type))
  registry.validateParams type params
  return body

/-- Leave a node: call its plugin, which has to give a text. -/
def leave (audience : Audience) (type : Value) (body : RenderBody) : Walk String := do
  match ← run audience body with
  | .text text => return text
  | .other kind => throw (.problem (.pluginBadReturn type kind))

/-- The params of a node. -/
def paramsOf (fields : Fields) : Value := (Fields.getD fields "params").orElse (.object [])

mutual

/-- The markup of a node. -/
def renderNode (audience : Audience) (context : RenderContext) : Value → Walk String
  | .object fields => do
      let type := Fields.getD fields "type"
      let params := paramsOf fields
      let body ← enter type params
      let children ← renderChildren audience context fields
      leave audience type (body ⟨fields, params, children, context⟩)
  | _ => throw .notAnObject

/-- The markup of the children among the entries of a node. -/
def renderChildren (audience : Audience) (context : RenderContext) :
    List (String × Value) → Walk String
  | [] => return ""
  | (key, value) :: rest =>
      if key = "children" then
        match value with
        | .list items => renderItems audience context items
        | .object [] => return ""
        | .object _ => throw .notAnObject
        | .str text => if text.isEmpty then return "" else throw .notAnObject
        | value => if value.truthy then throw .wrongKind else return ""
      else renderChildren audience context rest

/-- The markup of nodes, one after another. -/
def renderItems (audience : Audience) (context : RenderContext) :
    List Value → Walk String
  | [] => return ""
  | item :: rest => do
      let first ← renderNode audience context item
      let others ← renderItems audience context rest
      return first ++ others

end

/-- The markup of a tree; a tree that was pruned altogether has none. -/
def render (audience : Audience) (tree : Value) (context : RenderContext) : Walk String :=
  if tree.truthy then renderNode audience context tree else return ""

/-- What a host gets that has no registry to render with. -/
def withoutRegistry : Fault :=
  .problem (.rendering "HTMLRenderer requires a plugin registry" .null .renderFailed)

end Renderer

/-- Render a tree with nobody else around. -/
def Hub.render (audience : Audience) (tree : Value) (context : RenderContext) (hub : Hub) :
    Outcome String × Hub :=
  let (outcome, session) := (Renderer.render audience tree context).run.run ⟨hub, []⟩
  (outcome, session.hub)

end PageComposer
