import PageComposer.Page
import PageComposer.Repository.Column
import PageComposer.Repository.MemoryPages
import PageComposer.Value.Equality

/-!
# Pages in a table

A table has a row for each slug.  A page is saved in two steps: the row of its slug
is read, and then the columns are written whose new value is not the same data as
the value that was read.  Between the steps others may write to the table.
-/

namespace PageComposer

/-- A stored page. -/
structure PageRow where
  slug : String
  version : Value
  info : Value
  root : Value
  deriving DecidableEq, Repr

namespace PageRow

/-- The page that a row holds. -/
def toPage (row : PageRow) : Value :=
  .object [("version", row.version), ("meta", row.info), ("root", row.root)]

/-- The row of a page under a slug. -/
def ofPage (slug : String) (page : Value) : PageRow :=
  let entry (key : String) :=
    match page with
    | .object fields => Fields.getD fields key
    | _ => .null
  ⟨slug, entry "version", entry "meta", entry "root"⟩

/-- A column after a write: only a value that differs from what was read is written. -/
def column (seen wanted current : Value) : Value :=
  if wanted.looselySame seen then current else wanted

/-- A row after a write by one who has read `seen` and wants `wanted`. -/
def update (seen wanted current : PageRow) : PageRow where
  slug := current.slug
  version := column seen.version wanted.version current.version
  info := column seen.info wanted.info current.info
  root := column seen.root wanted.root current.root

end PageRow

/-- Stored pages, in the order in which their slugs came in. -/
structure PageTable where
  rows : List PageRow
  deriving DecidableEq, Repr

namespace PageTable

def empty : PageTable := ⟨[]⟩

/-- What the table is asked for a page. -/
def question : String :=
  "SELECT pages.id, pages.slug, pages.version, pages.meta, pages.root, pages.created_at, "
    ++ "pages.updated_at \nFROM pages \nWHERE pages.slug = ?"

/-- The fault of one who asks for a page before the table is made. -/
def unmade (slug : Value) : Fault := .denial (.noTable "pages" question [slug])

/-- The row of a slug. -/
def select (table : PageTable) (slug : String) : Option PageRow :=
  table.rows.find? fun row => row.slug = slug

/-- Write a row, given what was read of it before. -/
def flush (table : PageTable) (seen : Option PageRow) (wanted : PageRow) : PageTable :=
  match seen with
  | none => ⟨table.rows ++ [wanted]⟩
  | some seen => ⟨table.rows.map fun row =>
      if row.slug = wanted.slug then PageRow.update seen wanted row else row⟩

/-- The row that a valid page is to be stored as. -/
def rowOf (page : Value) : Outcome PageRow := do
  match Page.validate page with
  | .error problem => .error (.problem problem)
  | .ok _ =>
      match ← MemoryPages.slugOf page with
      | .str slug =>
          if slug.isEmpty then .error (.refusal .storedPageWithoutSlug)
          else return PageRow.ofPage slug page
      | _ => .error (.refusal .storedPageWithoutSlug)

/-- Store a row, with nobody else around. -/
def store (table : PageTable) (wanted : PageRow) : PageTable :=
  table.flush (table.select wanted.slug) wanted

/-- Store a page, with nobody else around. -/
def save (table : PageTable) (page : Value) : Outcome PageTable := do
  return table.store (← rowOf page)

/-- The page under a slug, which is checked once more; null if there is none. -/
def find (table : PageTable) (slug : Value) : Outcome Value := do
  match (← Column.text? slug).bind table.select with
  | none => return .null
  | some row =>
      match Page.validate row.toPage with
      | .ok _ => return row.toPage
      | .error problem => .error (.problem problem)

end PageTable

end PageComposer
