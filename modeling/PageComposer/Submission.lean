import PageComposer.Page
import PageComposer.Renderer
import PageComposer.Value.Height

/-!
# Submissions

A submission asks for the rendering of a page or of a bare tree; either has to be
valid.  It is answered with markup or with the tree as data.
-/

namespace PageComposer

/-- What is to be rendered. -/
structure Submission where
  /-- The page, null for a bare tree. -/
  page : Value
  tree : Value
  deriving DecidableEq, Repr

namespace Submission

/-- The answer to a body that holds neither a page nor a tree. -/
def missing : Problem := .general "Missing page or tree in body" (.int 400) .badRequest .null

/-- Lift a check of the page grammar. -/
def checked {Result : Type} : Except Problem Result → Outcome Unit
  | .ok _ => .ok ()
  | .error problem => .error (.problem problem)

/-- The submission in a body, whose documents are read in a given way; a page wins over a
tree. -/
def ofBody (reading : Node.Reading) (body : Value) : Outcome Submission := do
  let page ← body.lookup "page"
  let tree ← body.lookup "tree"
  if page.truthy then
    checked (Page.validateBy reading page)
    return ⟨page, Page.rootOf page⟩
  else if tree.truthy then
    checked (Node.validateBy reading tree)
    return ⟨.null, tree⟩
  else .error (.problem missing)

/-- A caller wants markup: by asking for that format or by accepting it. -/
def wantsMarkup (format accept : Value) : Outcome Bool := do
  let format ← if format.truthy then format.text else .ok ""
  if Text.lower format = "html" then return true
  if !accept.truthy then return false
  match accept with
  | .str accept => return Text.contains accept "text/html"
  | accept => return (← accept.members).contains (.str "text/html")

/-- How many steps of work may be under way at once. -/
def greatestSteps : Nat := 1000

/-- How many steps of work are under way when a tree is copied by itself. -/
def copyingDepth : Nat := 15

/-- A tree as data; it is copied when so many steps of work are already under way. -/
def copied (steps : Nat) (tree : Value) : Outcome Value :=
  if steps + tree.copyingSteps > greatestSteps then .error (.misuse .tooDeep) else .ok tree

/-- The tree as data, with the metadata and the version of its page, when so many steps of
work are under way. -/
def valueUnder (steps : Nat) (submission : Submission) : Outcome Value := do
  let fields :=
    match submission.page with
    | .object fields => fields
    | _ => []
  return .object [("tree", ← copied steps submission.tree), ("meta", Fields.getD fields "meta"),
    ("version", Fields.getD fields "version")]

/-- The tree as data, with the metadata and the version of its page. -/
def toValue : Submission → Outcome Value := valueUnder (copyingDepth + 1)

/-- The markup of the tree, rendered for a request. -/
def toMarkup (submission : Submission) (hub : Hub) (request : Request) :
    Outcome String × Hub :=
  hub.render .silent submission.tree
    (.record { Context.ofRequest request with tree := submission.tree })

end Submission

end PageComposer
