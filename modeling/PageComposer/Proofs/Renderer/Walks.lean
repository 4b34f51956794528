import PageComposer.Proofs.Program
import PageComposer.Proofs.Tree
import PageComposer.Renderer

/-!
# Walks over a forest

`Walks` says what a walk over a forest can do, one rule for each way on: what it asks the
allowlist and what becomes of the allowlist on the way, in one trace.  `walks_answer` and
`Walks.answer_eq` say that these are the walks of the renderer and no others, so that
what holds of every walk is shown by one induction over the rules.
-/

namespace PageComposer

namespace Renderer

/-! ### Plugins -/

/-- The ids that are allowed; none when all are. -/
abbrev Allowlist := Option (List String)

def allowlistOf (session : Session) : Allowlist := session.hub.registry.allowlist

/-- The allowlists that a group of changes puts in force, one after another. -/
def groupTrail (audience : Audience) : List Change → Hub → List Allowlist
  | [], _ => []
  | change :: rest, hub =>
      let after := (hub.perform audience change).2
      after.registry.allowlist :: groupTrail audience rest after

/-- The allowlists that are put in force while a plugin runs. -/
def trail (audience : Audience) : RenderBody → Session → List Allowlist
  | .give _, _ | .fail _, _ => []
  | .note entry rest, session =>
      trail audience rest { session with hub := session.hub.write entry }
  | .types rest, session => trail audience (rest session.hub.registry.types) session
  | .setAllowlist ids rest, session =>
      let (outcome, hub) := session.hub.perform audience (.setAllowlist ids)
      hub.registry.allowlist :: trail audience (rest outcome) { session with hub := hub }
  | .pause rest, session =>
      match session.schedule with
      | [] => trail audience rest session
      | changes :: later =>
          groupTrail audience changes session.hub ++ trail audience rest {
            hub := changes.foldl (fun hub change => (hub.perform audience change).2) session.hub
            schedule := later }

def play (audience : Audience) (body : RenderBody) (session : Session) :
    Outcome Rendered × Session := Program.answer (run audience body) session

section

variable {audience : Audience} {session : Session}

@[simp] theorem play_give (result : Rendered) :
    play audience (.give result) session = (.ok result, session) := rfl

@[simp] theorem play_fail (fault : Fault) :
    play audience (.fail fault) session = (.error fault, session) := rfl

@[simp] theorem play_note (entry : Value) (rest : RenderBody) :
    play audience (.note entry rest) session =
      play audience rest { session with hub := session.hub.write entry } := rfl

@[simp] theorem play_types (rest : List String → RenderBody) :
    play audience (.types rest) session =
      play audience (rest session.hub.registry.types) session := rfl

@[simp] theorem play_setAllowlist (ids : Value) (rest : Outcome Unit → RenderBody) :
    play audience (.setAllowlist ids rest) session =
      play audience (rest (session.hub.perform audience (.setAllowlist ids)).1)
        { session with hub := (session.hub.perform audience (.setAllowlist ids)).2 } := rfl

theorem play_pause_nil {rest : RenderBody} (alone : session.schedule = []) :
    play audience (.pause rest) session = play audience rest session := by
  have waited : Program.answer (wait audience) session = (.ok (), session) := by
    obtain ⟨hub, schedule⟩ := session
    subst alone
    rfl
  exact Program.answer_bind_ok waited

theorem play_pause_cons {rest : RenderBody} {changes : List Change}
    {later : List (List Change)} (scheduled : session.schedule = changes :: later) :
    play audience (.pause rest) session = play audience rest {
      hub := changes.foldl (fun hub change => (hub.perform audience change).2) session.hub
      schedule := later } := by
  have waited : Program.answer (wait audience) session = (.ok (), {
      hub := changes.foldl (fun hub change => (hub.perform audience change).2) session.hub
      schedule := later }) := by
    obtain ⟨hub, schedule⟩ := session
    subst scheduled
    rfl
  exact Program.answer_bind_ok waited

theorem allowlist_group_mem (audience : Audience) (changes : List Change) (hub : Hub) :
    (changes.foldl (fun hub change => (hub.perform audience change).2) hub).registry.allowlist ∈
      hub.registry.allowlist :: groupTrail audience changes hub := by
  induction changes generalizing hub with
  | nil => simp
  | cons change rest induction =>
      exact List.mem_cons_of_mem _ (induction (hub.perform audience change).2)

/-- What is in force when a plugin has run was in force before or was put in force. -/
theorem allowlistOf_play_mem (audience : Audience) (body : RenderBody) (session : Session) :
    allowlistOf (play audience body session).2 ∈
      allowlistOf session :: trail audience body session := by
  induction body generalizing session with
  | give result => simp
  | fail fault => simp
  | note entry rest induction =>
      exact induction { session with hub := session.hub.write entry }
  | types rest induction => exact induction _ session
  | setAllowlist ids rest induction =>
      exact List.mem_cons_of_mem _ (induction _ _)
  | pause rest induction =>
      cases scheduled : session.schedule with
      | nil =>
          rw [play_pause_nil scheduled, trail, scheduled]
          exact induction session
      | cons changes later =>
          rw [play_pause_cons scheduled, trail, scheduled]
          have group := allowlist_group_mem audience changes session.hub
          have after := induction {
            hub := changes.foldl (fun hub change => (hub.perform audience change).2) session.hub
            schedule := later }
          rcases List.mem_cons.mp after with same | changed
          · rw [same]
            exact (List.mem_cons.mp group).elim (fun before => by simp [before, allowlistOf])
              fun among => List.mem_cons_of_mem _ (List.mem_append_left _ among)
          · exact List.mem_cons_of_mem _ (List.mem_append_right _ changed)

end

/-! ### Entering and leaving -/

/-- What a registry answers to a node that is to be entered. -/
def admission (registry : Registry) (type params : Value) :
    Outcome (RenderArgs → RenderBody) := do
  let allowed ← registry.isAllowed type
  if !allowed then .error (.problem (.pluginNotAllowed type))
  else
    match (← registry.lookup type).bind fun registration => registration.plugin.body with
    | none => .error (.problem (.pluginMissing type))
    | some body => do
        registry.validateParams type params
        return body

/-- A node is entered if its type is allowed and registered with a plugin that can render,
and its params are valid. -/
theorem admission_ok_iff {registry : Registry} {type params : Value}
    {body : RenderArgs → RenderBody} :
    admission registry type params = .ok body ↔
      registry.isAllowed type = .ok true ∧ registry.validateParams type params = .ok () ∧
        ∃ id registration, type = .str id ∧ registry.find? id = some registration ∧
          registration.plugin.body = some body := by
  constructor
  · intro admitted
    rcases allowed : registry.isAllowed type with fault | ⟨⟩ | ⟨⟩
    · simp [admission, allowed, bind, Except.bind] at admitted
    · simp [admission, allowed, bind, Except.bind] at admitted
    · cases type with
      | str id =>
          cases found : registry.find? id with
          | none =>
              simp [admission, allowed, Registry.lookup, found, bind, Except.bind] at admitted
          | some registration =>
              cases hasBody : registration.plugin.body with
              | none =>
                  simp [admission, allowed, Registry.lookup, found, hasBody, bind, Except.bind]
                    at admitted
              | some given =>
                  rcases valid : registry.validateParams (.str id) params with fault | ⟨⟩ <;>
                    simp [admission, allowed, Registry.lookup, found, hasBody, valid, bind,
                      Except.bind, pure, Except.pure] at admitted
                  subst admitted
                  exact ⟨rfl, rfl, id, registration, rfl, found, hasBody⟩
      | _ =>
          simp [admission, allowed, Registry.lookup, Value.asKey, Value.canBeKey, bind,
            Except.bind, pure, Except.pure] at admitted
  · rintro ⟨allowed, valid, id, registration, rfl, found, hasBody⟩
    simp [admission, allowed, valid, Registry.lookup, found, hasBody, bind, Except.bind, pure,
      Except.pure]

theorem answer_enter (type params : Value) (session : Session) :
    Program.answer (enter type params) session =
      (admission session.hub.registry type params, session) := by
  simp only [enter, admission, Program.answer_bind, Program.answer_get, Program.answer_lift]
  rcases session.hub.registry.isAllowed type with fault | ⟨⟩ | ⟨⟩
  · rfl
  · rfl
  · rcases session.hub.registry.lookup type with fault | _ | ⟨_, ⟨_, _, _, _ | body⟩, _⟩
    · rfl
    · rfl
    · rfl
    · rcases session.hub.registry.validateParams type params with fault | ⟨⟩ <;> rfl

/-- What a node is left with: the text that its plugin gave, and nothing else will do. -/
def textOf (type : Value) : Outcome Rendered → Outcome String
  | .ok (.text text) => .ok text
  | .ok (.other kind) => .error (.problem (.pluginBadReturn type kind))
  | .error fault => .error fault

theorem answer_leave (audience : Audience) (type : Value) (body : RenderBody)
    (session : Session) :
    Program.answer (leave audience type body) session =
      (textOf type (play audience body session).1, (play audience body session).2) := by
  rw [leave, Program.answer_bind, ← play]
  rcases play audience body session with ⟨fault | ⟨text⟩ | ⟨kind⟩, after⟩ <;> rfl

/-- The nodes below a node, if what stands there can be walked over. -/
def childItems (fields : Fields) : Outcome (List Value) :=
  match Fields.get? fields "children" with
  | none | some (.object []) => .ok []
  | some (.list items) => .ok items
  | some (.object _) => .error .notAnObject
  | some (.str text) => if text.isEmpty then .ok [] else .error .notAnObject
  | some value => if value.truthy then .error .wrongKind else .ok []

theorem childItems_eq_childNodes {fields : Fields} {items : List Value}
    (shaped : childItems fields = .ok items) : items = (Value.object fields).childNodes := by
  unfold childItems at shaped
  simp only [Value.childNodes]
  split at shaped
  · simp_all
  · simp_all
  · simp_all
  · simp at shaped
  · split at shaped <;> simp_all
  · split at shaped <;> simp_all

theorem answer_renderChildren (audience : Audience) (context : RenderContext)
    (fields : Fields) (session : Session) :
    Program.answer (renderChildren audience context fields) session =
      match childItems fields with
      | .ok items => Program.answer (renderItems audience context items) session
      | .error fault => (.error fault, session) := by
  induction fields with
  | nil => rfl
  | cons entry rest induction =>
      obtain ⟨key, value⟩ := entry
      by_cases same : key = "children"
      · subst same
        cases value with
        | object entries =>
            cases entries <;> simp [renderChildren, childItems, Fields.get?, renderItems]
        | list items => simp [renderChildren, childItems, Fields.get?]
        | str text =>
            cases empty : text.isEmpty <;>
              simp [renderChildren, childItems, Fields.get?, empty, renderItems]
        | null => simp [renderChildren, childItems, Fields.get?, renderItems, Value.truthy]
        | bool value =>
            cases value <;>
              simp [renderChildren, childItems, Fields.get?, renderItems, Value.truthy]
        | int value =>
            by_cases given : value = 0 <;>
              simp [renderChildren, childItems, Fields.get?, renderItems, Value.truthy, given]
        | float value =>
            cases given : value.isZero <;>
              simp [renderChildren, childItems, Fields.get?, renderItems, Value.truthy, given]
      · cases value with
        | object entries =>
            cases entries <;>
              simpa [renderChildren, childItems, Fields.get?, same] using induction
        | _ => simpa [renderChildren, childItems, Fields.get?, same] using induction

/-! ### Walks -/

/-- What happens to an allowlist in a walk. -/
inductive Moment where
  /-- The allowlist in force is asked for a type. -/
  | asked (allowlist : Allowlist) (type : Value)
  /-- An allowlist is put in force. -/
  | changed (allowlist : Allowlist)
  deriving DecidableEq, Repr

/-- A walk over a forest: from a session, with what happens on the way, to an outcome and
a session. -/
inductive Walks (audience : Audience) (context : RenderContext) :
    List Value → Session → List Moment → Outcome String → Session → Prop where
  | done {session : Session} : Walks audience context [] session [] (.ok "") session
  | notObject {item : Value} {rest : List Value} {session : Session}
      (other : ∀ fields, item ≠ .object fields) :
      Walks audience context (item :: rest) session [] (.error .notAnObject) session
  | refused {fields : Fields} {rest : List Value} {session : Session} {type : Value}
      {fault : Fault} (named : type = (Value.object fields).typeOf)
      (refusal : admission session.hub.registry type (paramsOf fields) = .error fault) :
      Walks audience context (.object fields :: rest) session
        [.asked (allowlistOf session) type] (.error fault) session
  | misshapen {fields : Fields} {rest : List Value} {session : Session} {type : Value}
      {body : RenderArgs → RenderBody} {fault : Fault}
      (named : type = (Value.object fields).typeOf)
      (admitted : admission session.hub.registry type (paramsOf fields) = .ok body)
      (shapeless : childItems fields = .error fault) :
      Walks audience context (.object fields :: rest) session
        [.asked (allowlistOf session) type] (.error fault) session
  | failedBelow {fields : Fields} {rest children : List Value} {session after : Session}
      {type : Value} {body : RenderArgs → RenderBody} {inner : List Moment} {fault : Fault}
      (named : type = (Value.object fields).typeOf)
      (admitted : admission session.hub.registry type (paramsOf fields) = .ok body)
      (shaped : childItems fields = .ok children)
      (below : Walks audience context children session inner (.error fault) after) :
      Walks audience context (.object fields :: rest) session
        (.asked (allowlistOf session) type :: inner) (.error fault) after
  | failedLeaving {fields : Fields} {rest children : List Value}
      {session between after : Session} {type : Value} {body : RenderArgs → RenderBody}
      {inner : List Moment} {markup : String} {result : Outcome Rendered} {fault : Fault}
      (named : type = (Value.object fields).typeOf)
      (admitted : admission session.hub.registry type (paramsOf fields) = .ok body)
      (shaped : childItems fields = .ok children)
      (below : Walks audience context children session inner (.ok markup) between)
      (played : play audience (body ⟨fields, paramsOf fields, markup, context⟩) between =
        (result, after))
      (failed : textOf type result = .error fault) :
      Walks audience context (.object fields :: rest) session
        (.asked (allowlistOf session) type :: (inner ++
          (trail audience (body ⟨fields, paramsOf fields, markup, context⟩) between).map
            .changed)) (.error fault) after
  | left {fields : Fields} {rest children : List Value}
      {session between after last : Session} {type : Value} {body : RenderArgs → RenderBody}
      {inner later : List Moment} {markup own : String} {result : Outcome Rendered}
      {outcome : Outcome String}
      (named : type = (Value.object fields).typeOf)
      (admitted : admission session.hub.registry type (paramsOf fields) = .ok body)
      (shaped : childItems fields = .ok children)
      (below : Walks audience context children session inner (.ok markup) between)
      (played : play audience (body ⟨fields, paramsOf fields, markup, context⟩) between =
        (result, after))
      (gave : textOf type result = .ok own)
      (others : Walks audience context rest after later outcome last) :
      Walks audience context (.object fields :: rest) session
        (.asked (allowlistOf session) type :: (inner ++
          (trail audience (body ⟨fields, paramsOf fields, markup, context⟩) between).map
            .changed ++ later)) (outcome.map (own ++ ·)) last

section

variable {audience : Audience} {context : RenderContext}

theorem answer_renderNode (fields : Fields) (session : Session) :
    Program.answer (renderNode audience context (.object fields)) session =
      match admission session.hub.registry (Value.object fields).typeOf (paramsOf fields) with
      | .error fault => (.error fault, session)
      | .ok body =>
          match Program.answer (renderChildren audience context fields) session with
          | (.error fault, after) => (.error fault, after)
          | (.ok markup, between) =>
              Program.answer (leave audience (Value.object fields).typeOf
                (body ⟨fields, paramsOf fields, markup, context⟩)) between := by
  rw [renderNode, Program.answer_bind, answer_enter]
  simp only [Value.typeOf]
  rcases admission session.hub.registry (Fields.getD fields "type") (paramsOf fields) with
    fault | body
  · rfl
  · dsimp only
    rw [Program.answer_bind]
    rcases Program.answer (renderChildren audience context fields) session with
      ⟨fault | markup, between⟩ <;> rfl

theorem answer_renderItems_cons (item : Value) (rest : List Value) (session : Session) :
    Program.answer (renderItems audience context (item :: rest)) session =
      match Program.answer (renderNode audience context item) session with
      | (.error fault, after) => (.error fault, after)
      | (.ok own, after) =>
          ((Program.answer (renderItems audience context rest) after).1.map (own ++ ·),
            (Program.answer (renderItems audience context rest) after).2) := by
  rw [renderItems, Program.answer_bind]
  rcases Program.answer (renderNode audience context item) session with ⟨fault | own, after⟩
  · rfl
  · simp only [Program.answer_bind]
    rcases Program.answer (renderItems audience context rest) after with ⟨fault | others, last⟩ <;>
      rfl

/-- What the renderer does over a forest is a walk. -/
theorem walks_answer (items : List Value) (session : Session) :
    ∃ trace, Walks audience context items session trace
      (Program.answer (renderItems audience context items) session).1
      (Program.answer (renderItems audience context items) session).2 := by
  induction items using Value.forestInduction generalizing session with
  | nil => exact ⟨[], .done⟩
  | cons item rest below others =>
      rw [answer_renderItems_cons]
      by_cases shape : ∃ fields, item = .object fields
      · obtain ⟨fields, rfl⟩ := shape
        rw [answer_renderNode, answer_renderChildren]
        rcases admitted : admission session.hub.registry (Value.object fields).typeOf
          (paramsOf fields) with fault | body
        · exact ⟨_, .refused rfl admitted⟩
        · rcases shaped : childItems fields with fault | children
          · exact ⟨_, .misshapen rfl admitted shaped⟩
          · rw [← childItems_eq_childNodes shaped] at below
            -- The plugin runs behind the forest below its node, in the session left there.
            obtain ⟨inner, walked⟩ := below session
            dsimp only
            rcases came : Program.answer (renderItems audience context children) session with
              ⟨fault | markup, between⟩ <;> rw [came] at walked
            · exact ⟨_, .failedBelow rfl admitted shaped walked⟩
            · simp only [answer_leave]
              rcases played : play audience (body ⟨fields, paramsOf fields, markup, context⟩)
                between with ⟨result, after⟩
              dsimp only
              rcases gave : textOf (Value.object fields).typeOf result with fault | own
              · exact ⟨_, .failedLeaving rfl admitted shaped walked played gave⟩
              · obtain ⟨later, onward⟩ := others after
                exact ⟨_, .left rfl admitted shaped walked played gave onward⟩
      · have other : ∀ fields, item ≠ .object fields := fun fields same => shape ⟨fields, same⟩
        have ended : Program.answer (renderNode audience context item) session =
            (.error .notAnObject, session) := by
          cases item with
          | object fields => exact absurd rfl (other fields)
          | _ => rfl
        rw [ended]
        exact ⟨_, .notObject other⟩

/-- A walk is what the renderer does. -/
theorem Walks.answer_eq {items : List Value} {session after : Session} {trace : List Moment}
    {outcome : Outcome String} (walks : Walks audience context items session trace outcome after) :
    Program.answer (renderItems audience context items) session = (outcome, after) := by
  induction walks with
  | done => rfl
  | @notObject item rest session other =>
      rw [answer_renderItems_cons]
      cases item with
      | object fields => exact absurd rfl (other fields)
      | _ => rfl
  | refused named refusal =>
      rw [answer_renderItems_cons, answer_renderNode, ← named, refusal]
  | misshapen named admitted shapeless =>
      rw [answer_renderItems_cons, answer_renderNode, ← named, admitted, answer_renderChildren,
        shapeless]
  | failedBelow named admitted shaped _ below =>
      rw [answer_renderItems_cons, answer_renderNode, ← named, admitted, answer_renderChildren,
        shaped]
      simp [below]
  | failedLeaving named admitted shaped _ played failed below =>
      rw [answer_renderItems_cons, answer_renderNode, ← named, admitted, answer_renderChildren,
        shaped]
      simp [below, answer_leave, played, failed]
  | left named admitted shaped _ played gave _ below others =>
      rw [answer_renderItems_cons, answer_renderNode, ← named, admitted, answer_renderChildren,
        shaped]
      simp [below, answer_leave, played, gave, others]

/-- The forest that a tree is rendered as; nothing is left of a tree that was pruned. -/
def forestOf (tree : Value) : List Value := if tree.truthy then [tree] else []

theorem answer_render (tree : Value) (session : Session) :
    Program.answer (render audience tree context) session =
      Program.answer (renderItems audience context (forestOf tree)) session := by
  unfold render forestOf
  split
  · rw [answer_renderItems_cons]
    rcases Program.answer (renderNode audience context tree) session with ⟨fault | own, after⟩
    · rfl
    · simp [renderItems, Except.map]
  · rfl

end

end Renderer

end PageComposer
