import PageComposer.Proofs.Page.Grammar
import PageComposer.Proofs.Value.Sameness
import PageComposer.Repository.PageTable

/-!
# The parts of a stored page

A row has a column for each part of a page.  What is checked of a page is checked of its
parts one by one, and pages are the same when their parts are, so rows that are put together
from the parts of valid pages hold valid pages.  The collection in memory and the table agree
on which pages can be stored.
-/

namespace PageComposer

/-- A part of a page that a row has a column for. -/
inductive PagePart where
  | version
  | info
  | root
  deriving DecidableEq, Repr

namespace PagePart

def key : PagePart → String
  | version => "version"
  | info => "meta"
  | root => "root"

def ofPage (part : PagePart) : Value → Value
  | .object fields => Fields.getD fields part.key
  | _ => .null

def ofRow (row : PageRow) : PagePart → Value
  | version => row.version
  | info => row.info
  | root => row.root

/-- What a part has to be in a page. -/
def Grammar (reading : Node.Reading) (value : Value) : PagePart → Prop
  | version => ∃ text, value = .str text ∧ Version.accepts text = true
  | info => ∃ fields, value = .object fields ∧
      Node.hasUnreadableKey reading fields = false ∧ PageMeta.Grammar fields
  | root => Node.Grammar reading value

@[simp] theorem ofRow_ofPage (part : PagePart) (slug : String) (page : Value) :
    part.ofRow (PageRow.ofPage slug page) = part.ofPage page := by
  cases part <;> cases page <;> rfl

@[simp] theorem ofRow_update (part : PagePart) (seen wanted current : PageRow) :
    part.ofRow (PageRow.update seen wanted current) =
      PageRow.column (part.ofRow seen) (part.ofRow wanted) (part.ofRow current) := by
  cases part <;> rfl

@[simp] theorem ofPage_toPage (part : PagePart) (row : PageRow) :
    part.ofPage row.toPage = part.ofRow row := by
  cases part <;> rfl

theorem mem_keys_iff {name : String} : name ∈ Page.keys ↔ ∃ part : PagePart, part.key = name := by
  constructor
  · intro member
    simp only [Page.keys, List.mem_cons, List.not_mem_nil, or_false] at member
    rcases member with rfl | rfl | rfl
    · exact ⟨version, rfl⟩
    · exact ⟨info, rfl⟩
    · exact ⟨root, rfl⟩
  · rintro ⟨part, rfl⟩
    cases part <;> simp [Page.keys, key]

theorem forall_iff {property : PagePart → Prop} :
    (∀ part, property part) ↔ property version ∧ property info ∧ property root := by
  constructor
  · intro each
    exact ⟨each version, each info, each root⟩
  · rintro ⟨first, second, third⟩ part
    cases part <;> assumption

end PagePart

namespace Page

variable {reading : Node.Reading} {fields : Fields} {page other : Value}

/-- A page is an object with its three parts and nothing else. -/
theorem grammar_object_iff :
    Grammar reading (.object fields) ↔
      (∀ name ∈ Fields.keys fields, name ∈ keys) ∧
        ∀ part : PagePart, ∃ value, Fields.get? fields part.key = some value ∧
          part.Grammar reading value := by
  rw [PagePart.forall_iff]
  constructor
  · intro grammar
    obtain ⟨hasVersion, accepted, hasMeta, readable, infoGrammar, hasRoot, rootGrammar, known⟩ :=
      grammar
    exact ⟨known, ⟨_, hasVersion, _, rfl, accepted⟩,
      ⟨_, hasMeta, _, rfl, readable, infoGrammar⟩, ⟨_, hasRoot, rootGrammar⟩⟩
  · rintro ⟨known, ⟨_, hasVersion, _, rfl, accepted⟩,
      ⟨_, hasMeta, _, rfl, readable, infoGrammar⟩, ⟨_, hasRoot, rootGrammar⟩⟩
    exact .page hasVersion accepted hasMeta readable infoGrammar hasRoot rootGrammar known

theorem Grammar.exists_fields (grammar : Grammar reading page) :
    ∃ fields, page = .object fields := by
  cases grammar with
  | page => exact ⟨_, rfl⟩

theorem Grammar.part (grammar : Grammar reading page) (part : PagePart) :
    part.Grammar reading (part.ofPage page) := by
  obtain ⟨fields, rfl⟩ := grammar.exists_fields
  obtain ⟨value, found, follows⟩ := (grammar_object_iff.mp grammar).2 part
  simpa [PagePart.ofPage, Fields.getD, found] using follows

/-- A row holds a page when each of its columns holds the part of one. -/
theorem grammar_toPage (row : PageRow)
    (parts : ∀ part : PagePart, part.Grammar reading (part.ofRow row)) :
    Grammar reading row.toPage := by
  rw [PageRow.toPage, grammar_object_iff]
  constructor
  · simp [Fields.keys, keys]
  · intro part
    exact ⟨part.ofRow row, by cases part <;> rfl, parts part⟩

theorem wellKeyed_part (wellKeyed : page.WellKeyed) (part : PagePart) :
    (part.ofPage page).WellKeyed := by
  cases page with
  | object fields =>
      cases found : Fields.get? fields part.key with
      | none => simpa [PagePart.ofPage, Fields.getD, found] using .scalar rfl
      | some value =>
          simpa [PagePart.ofPage, Fields.getD, found] using
            (Value.wellKeyed_object_iff.mp wellKeyed).2 _ (Fields.mem_of_get? found)
  | _ => exact .scalar rfl

theorem wellKeyed_toPage (row : PageRow)
    (parts : ∀ part : PagePart, (part.ofRow row).WellKeyed) : row.toPage.WellKeyed := by
  apply Value.WellKeyed.object
  · simp [Fields.keys]
  · intro entry member
    simp only [List.mem_cons, List.not_mem_nil, or_false] at member
    rcases member with rfl | rfl | rfl
    · exact parts .version
    · exact parts .info
    · exact parts .root

/-- Pages are the same when their parts are. -/
theorem same_iff_parts {asNumber : Value → Option Number} (grammar : Grammar reading page)
    (grammarToo : Grammar reading other) (wellKeyed : page.WellKeyed)
    (wellKeyedToo : other.WellKeyed) :
    Value.sameUnder asNumber page other = true ↔
      ∀ part : PagePart,
        Value.sameUnder asNumber (part.ofPage page) (part.ofPage other) = true := by
  obtain ⟨fields, rfl⟩ := grammar.exists_fields
  obtain ⟨fields', rfl⟩ := grammarToo.exists_fields
  obtain ⟨known, parts⟩ := grammar_object_iff.mp grammar
  obtain ⟨known', parts'⟩ := grammar_object_iff.mp grammarToo
  rw [Value.sameUnder_object_iff (Value.wellKeyed_object_iff.mp wellKeyed).1
    (Value.wellKeyed_object_iff.mp wellKeyedToo).1]
  constructor
  · intro entries part
    obtain ⟨value, found, -⟩ := parts part
    obtain ⟨value', found', -⟩ := parts' part
    simpa [PagePart.ofPage, Fields.getD, found, found'] using entries part.key
  · intro each name
    by_cases known? : name ∈ keys
    · obtain ⟨part, rfl⟩ := PagePart.mem_keys_iff.mp known?
      obtain ⟨value, found, -⟩ := parts part
      obtain ⟨value', found', -⟩ := parts' part
      simpa [PagePart.ofPage, Fields.getD, found, found'] using each part
    · rw [Fields.get?_eq_none_iff.mpr fun member => known? (known name member),
        Fields.get?_eq_none_iff.mpr fun member => known? (known' name member)]
      exact .none

/-! ### Which pages can be stored -/

/-- A valid page with a slug. -/
def Storable (slug : String) (page : Value) : Prop :=
  (∃ parsed, validate page = .ok parsed) ∧
    MemoryPages.slugOf page = .ok (.str slug) ∧ slug ≠ ""

theorem Storable.grammar {slug : String} (storable : Storable slug page) :
    Grammar insideReading page :=
  validate_ok_iff.mp storable.1

theorem Storable.unique {slug slug' : String} (storable : Storable slug page)
    (storableToo : Storable slug' page) : slug = slug' := by
  have same := storable.2.1.symm.trans storableToo.2.1
  simpa using same

/-- The slug of a valid page is a text, or there is none. -/
theorem slugOf_cases {parsed : Page} (valid : validate page = .ok parsed) :
    MemoryPages.slugOf page = .ok .null ∨ ∃ slug, MemoryPages.slugOf page = .ok (.str slug) := by
  have grammar : Grammar insideReading page := validate_ok_iff.mp ⟨parsed, valid⟩
  obtain ⟨fields, rfl⟩ := grammar.exists_fields
  obtain ⟨_, hasMeta, info, rfl, -, texts⟩ := (grammar_object_iff.mp grammar).2 .info
  have read : MemoryPages.slugOf (.object fields) = .ok (Fields.getD info "slug") := by
    have hasMeta : Fields.get? fields "meta" = some (.object info) := hasMeta
    simp [MemoryPages.slugOf, Value.lookup, Value.entries, Fields.getD, hasMeta, bind,
      Except.bind, pure, Except.pure]
  rw [read]
  cases found : Fields.get? info "slug" with
  | none => exact .inl (by simp [Fields.getD, found])
  | some value =>
      obtain ⟨slug, rfl⟩ := texts "slug" (by simp [PageMeta.keys]) value found
      exact .inr ⟨slug, by simp [Fields.getD, found]⟩

/-- A value can be stored under a slug, or it is no page, or a page without a slug. -/
theorem storable_cases (page : Value) :
    (∃ slug, Storable slug page) ∨ (∃ problem, validate page = .error problem) ∨
      ∃ parsed said, validate page = .ok parsed ∧ MemoryPages.slugOf page = .ok said ∧
        said.truthy = false := by
  rcases valid : validate page with problem | parsed
  · exact .inr (.inl ⟨problem, rfl⟩)
  · rcases slugOf_cases valid with missing | ⟨slug, read⟩
    · exact .inr (.inr ⟨parsed, .null, rfl, missing, rfl⟩)
    · by_cases empty : slug = ""
      · subst empty
        exact .inr (.inr ⟨parsed, .str "", rfl, read, rfl⟩)
      · exact .inl ⟨slug, ⟨parsed, valid⟩, read, empty⟩

end Page

theorem Value.looselySame_str_iff {value : Value} {text : String} :
    value.looselySame (.str text) = true ↔ value = .str text := by
  constructor
  · intro same
    cases value with
    | list items =>
        obtain ⟨_, alike, -⟩ := list_of_sameUnder scalarsOnly_quantity? same
        cases alike
    | object fields =>
        obtain ⟨_, alike, -⟩ := object_of_sameUnder scalarsOnly_quantity? same
        cases alike
    | _ =>
        obtain ⟨-, same⟩ := plain_of_sameUnder scalarsOnly_quantity? rfl same
        rcases sameScalar_iff.mp same with alike | ⟨_, _, -, counts, -⟩
        · exact alike
        · cases counts
  · rintro rfl
    exact sameUnder_refl (.scalar rfl)

/-! ### The collection in memory -/

namespace MemoryPages

variable {pages after : MemoryPages} {page : Value} {slug other : String}

theorem add_of_storable (storable : Page.Storable slug page) :
    pages.add page .null = .ok ⟨pages.entries.insert (.str slug) page⟩ := by
  obtain ⟨⟨parsed, valid⟩, read, some⟩ := storable
  simp [add, valid, read, some, Value.orElse, Value.truthy, Value.asKey, Value.canBeKey, bind,
    Except.bind, pure, Except.pure]

/-- A page is added when it can be stored, and refused otherwise. -/
theorem add_ok_iff :
    pages.add page .null = .ok after ↔
      ∃ slug, Page.Storable slug page ∧
        after = ⟨pages.entries.insert (.str slug) page⟩ := by
  constructor
  · intro added
    rcases Page.storable_cases page with ⟨slug, storable⟩ | ⟨problem, invalid⟩ |
      ⟨parsed, said, valid, read, empty⟩
    · rw [add_of_storable storable, Except.ok.injEq] at added
      exact ⟨slug, storable, added.symm⟩
    · simp [add, invalid] at added
    · have key : Value.null.orElse said = said := rfl
      simp [add, valid, read, key, empty, bind, Except.bind] at added
  · rintro ⟨slug, storable, rfl⟩
    exact add_of_storable storable

end MemoryPages

theorem Keyed.get?_insert_of_ne {entries : Keyed} {value : Value} {slug other : String}
    (different : slug ≠ other) :
    (entries.insert (.str slug) value).get? (.str other) = entries.get? (.str other) := by
  have apart : ¬ (Value.str slug).looselySame (.str other) = true := by
    simpa [Value.looselySame_str_iff] using different
  induction entries with
  | nil => simp [insert, get?, apart]
  | cons entry rest induction =>
      obtain ⟨key, old⟩ := entry
      by_cases here : key.looselySame (.str slug) = true
      · obtain rfl := Value.looselySame_str_iff.mp here
        simp [insert, get?, here, apart]
      · simp only [insert, here, Bool.false_eq_true, ↓reduceIte]
        simp only [get?, List.find?_cons] at induction ⊢
        split
        · rfl
        · exact induction

/-! ### The table -/

namespace PageTable

variable {table after : PageTable} {row wanted seen : PageRow} {page : Value} {slug : String}

theorem rowOf_of_storable (storable : Page.Storable slug page) :
    rowOf page = .ok (PageRow.ofPage slug page) := by
  obtain ⟨⟨parsed, valid⟩, read, some⟩ := storable
  simp [rowOf, valid, read, some, bind, Except.bind, pure, Except.pure]

/-- A page gets a row when it can be stored, and is refused otherwise. -/
theorem rowOf_ok_iff :
    rowOf page = .ok row ↔ ∃ slug, Page.Storable slug page ∧ row = PageRow.ofPage slug page := by
  constructor
  · intro made
    rcases Page.storable_cases page with ⟨slug, storable⟩ | ⟨problem, invalid⟩ |
      ⟨parsed, said, valid, read, empty⟩
    · rw [rowOf_of_storable storable, Except.ok.injEq] at made
      exact ⟨slug, storable, made.symm⟩
    · simp [rowOf, invalid] at made
    · cases said with
      | str slug =>
          have none : slug = "" := by simpa [Value.truthy] using empty
          simp [rowOf, valid, read, none, bind, Except.bind] at made
      | _ => simp [rowOf, valid, read, bind, Except.bind] at made
  · rintro ⟨slug, storable, rfl⟩
    exact rowOf_of_storable storable

theorem slug_rowOf_iff :
    (rowOf page).toOption.map PageRow.slug = some slug ↔ Page.Storable slug page := by
  constructor
  · intro named
    rcases made : rowOf page with fault | row
    · simp [made, Except.toOption] at named
    · obtain ⟨own, storable, rfl⟩ := rowOf_ok_iff.mp made
      obtain rfl : own = slug := by simpa [made, Except.toOption, PageRow.ofPage] using named
      exact storable
  · intro storable
    rw [rowOf_of_storable storable]
    rfl

instance : Decidable (Page.Storable slug page) := decidable_of_iff _ slug_rowOf_iff

theorem slug_of_select (found : table.select slug = some row) : row.slug = slug := by
  simpa using List.find?_some found

@[simp] theorem select_flush_none :
    (table.flush none wanted).select slug =
      (table.select slug).or (if wanted.slug = slug then some wanted else none) := by
  by_cases same : wanted.slug = slug <;>
    simp [flush, select, List.find?_append, same]

/-- A write to a row that was there before changes that row and no other. -/
@[simp] theorem select_flush_some :
    (table.flush (some seen) wanted).select slug =
      if slug = wanted.slug then (table.select slug).map (PageRow.update seen wanted)
      else table.select slug := by
  have slugs : (fun row : PageRow => decide (row.slug = slug)) ∘ (fun row =>
      if row.slug = wanted.slug then PageRow.update seen wanted row else row) =
        fun row => decide (row.slug = slug) := by
    funext row
    by_cases here : row.slug = wanted.slug <;> simp [here, PageRow.update]
  simp only [flush, select, List.find?_map, slugs]
  cases found : table.rows.find? fun row => decide (row.slug = slug) with
  | none => simp
  | some row =>
      obtain rfl := slug_of_select found
      by_cases here : row.slug = wanted.slug <;> simp [here]

/-- A row that is stored with nobody else around takes the place of the one there was. -/
theorem select_store :
    (table.store wanted).select slug =
      if slug = wanted.slug then
        some (match table.select slug with
          | none => wanted
          | some seen => PageRow.update seen wanted seen)
      else table.select slug := by
  rw [store]
  by_cases same : slug = wanted.slug
  · subst same
    cases found : table.select wanted.slug <;> simp [found]
  · cases table.select wanted.slug with
    | none => simp [same, Ne.symm same]
    | some seen => simp [same]

theorem save_of_storable (storable : Page.Storable slug page) :
    table.save page = .ok (table.store (PageRow.ofPage slug page)) := by
  rw [save, rowOf_of_storable storable]
  rfl

theorem save_ok_iff :
    table.save page = .ok after ↔
      ∃ slug, Page.Storable slug page ∧ after = table.store (PageRow.ofPage slug page) := by
  constructor
  · intro saved
    rw [save] at saved
    rcases made : rowOf page with fault | row
    · simp [made, bind, Except.bind] at saved
    · obtain ⟨slug, storable, rfl⟩ := rowOf_ok_iff.mp made
      rw [made] at saved
      exact ⟨slug, storable, (Except.ok.inj saved).symm⟩
  · rintro ⟨slug, storable, rfl⟩
    exact save_of_storable storable

theorem find_of_select_none (absent : table.select slug = none) :
    table.find (.str slug) = .ok .null := by
  simp [find, Column.text?, absent, bind, Except.bind, pure, Except.pure]

/-- A row that is made of the parts of pages is found as it is. -/
theorem find_of_select_some (found : table.select slug = some row)
    (parts : ∀ part : PagePart, part.Grammar Page.insideReading (part.ofRow row)) :
    table.find (.str slug) = .ok row.toPage := by
  obtain ⟨parsed, valid⟩ := Page.validate_ok_iff.mpr (Page.grammar_toPage row parts)
  simp [find, Column.text?, found, valid, bind, Except.bind, pure, Except.pure]

end PageTable

/-- A page with one block, which has a count of something. -/
def Page.counting (version : String) (count : Value) : Value :=
  .object [
    ("version", .str version),
    ("meta", .object [("slug", .str "about")]),
    ("root", .object [("type", .str "Box"), ("params", .object [("count", count)])])]

theorem Page.wellKeyed_counting {version : String} {count : Value}
    (plain : count.canBeKey = true) : (counting version count).WellKeyed := by
  simp only [counting, Value.wellKeyed_object_iff, Fields.keys, List.map_cons, List.map_nil,
    List.forall_mem_cons]
  have text (text : String) : (Value.str text).WellKeyed := .scalar rfl
  simp [text, Value.WellKeyed.scalar plain]

end PageComposer
