import PageComposer.Access
import PageComposer.Page
import PageComposer.Value.Keyed

/-!
# Pages in memory

A collection of valid pages under their slugs.  A page is stored as it was given and
found as it was stored; storing another page under a slug replaces the first.
-/

namespace PageComposer

/-- Pages under their slugs. -/
structure MemoryPages where
  entries : Keyed
  deriving DecidableEq, Repr

namespace MemoryPages

def empty : MemoryPages := ⟨[]⟩

def textBlock (params : Fields) : Value :=
  .object [("type", .str "TextBlock"), ("params", .object params)]

/-- The page that a new site starts with; its last block waits for a flag. -/
def homePage : Value :=
  .object [
    ("version", .str "1.0.0"),
    ("meta", .object [("slug", .str "home"), ("title", .str "Home")]),
    ("root", .object [
      ("type", .str "Container"),
      ("params", .object []),
      ("children", .list [
        textBlock [("text", .str "Welcome!")],
        .object [("type", .str "List"),
          ("params", .object [("items", .list [.str "One", .str "Two", .str "Three"])])],
        textBlock [("text", .str "New Header"), ("featureFlag", .str "newHeader")]])])]

/-- The pages of a new site. -/
def seeded : MemoryPages := ⟨[(.str "home", homePage)]⟩

/-- The page under a slug, null if there is none. -/
def find (pages : MemoryPages) (slug : Value) : Outcome Value := do
  slug.asKey
  return (pages.entries.get? slug).getD .null

/-- The slug of a page's metadata. -/
def slugOf (page : Value) : Outcome Value := do
  (← page.lookup "meta").lookup "slug"

/-- Store a valid page under a slug, or under the one of its metadata. -/
def add (pages : MemoryPages) (page slug : Value) : Outcome MemoryPages := do
  match Page.validate page with
  | .error problem => .error (.problem problem)
  | .ok _ =>
      let key := slug.orElse (← slugOf page)
      if !key.truthy then .error (.refusal .pageWithoutSlug)
      else
        key.asKey
        return ⟨pages.entries.insert key page⟩

/-- Store several pages in order. -/
def addAll (pages : MemoryPages) : List (String × Value) → Outcome MemoryPages
  | [] => .ok pages
  | (slug, page) :: rest => do addAll (← pages.add page (.str slug)) rest

/-- Pages given at the start, with or without those of a new site. -/
def ofValue (given : Value) (seed : Bool) : Outcome MemoryPages := do
  let fields ← (given.orElse (.object [])).entries
  addAll (if seed then seeded else empty) fields

end MemoryPages

end PageComposer
