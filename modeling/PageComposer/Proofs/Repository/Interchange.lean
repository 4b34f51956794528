import Mathlib.Data.List.Chain
import PageComposer.Proofs.Repository.Parts

/-!
# Two ways to keep pages

Pages in memory are stored whole.  A table writes a column only when it does not hold the same
data already, where a truth value is the same as the number it counts for, so a column keeps
the first of the latest values that are all the same.  The two refuse the same pages, and they
give the same answers as long as no two pages that are stored one after the other under a slug
have a part in which they differ and yet count as the same.
-/

namespace PageComposer

/-- What is asked of a collection of pages. -/
inductive Errand where
  | store (page : Value)
  | find (slug : String)
  deriving DecidableEq, Repr

/-- A collection of pages as those who use it know it. -/
structure Shelf (State : Type) where
  store : State → Value → Outcome State
  find : State → String → Outcome Value

/-- The pages stored under a slug on the way, in order. -/
def Errand.storedUnder (slug : String) (errands : List Errand) : List Value :=
  errands.filterMap fun
    | .store page => if Page.Storable slug page then some page else none
    | .find _ => none

namespace Shelf

variable {State : Type}

def memory : Shelf MemoryPages where
  store pages page := pages.add page .null
  find pages slug := pages.find (.str slug)

def table : Shelf PageTable where
  store := PageTable.save
  find table slug := table.find (.str slug)

/-- What one errand leaves; a page that is refused leaves what is stored as it is. -/
def step (shelf : Shelf State) (state : State) : Errand → State
  | .store page =>
      match shelf.store state page with
      | .ok after => after
      | .error _ => state
  | .find _ => state

def after (shelf : Shelf State) (start : State) (errands : List Errand) : State :=
  errands.foldl shelf.step start

def Accepts (shelf : Shelf State) (state : State) (page : Value) : Prop :=
  ∃ after, shelf.store state page = .ok after

end Shelf

/-! ### What a column keeps -/

/-- Of the values written one after another, the first of the latest ones that count as the
same. -/
def FirstOfLatest (written : List Value) (kept : Value) : Prop :=
  ∃ earlier later, written = earlier ++ kept :: later ∧
    (∀ value ∈ later, value.looselySame kept = true) ∧
    ∀ last ∈ earlier.getLast?, kept.looselySame last = false

theorem FirstOfLatest.mem {written : List Value} {kept : Value}
    (first : FirstOfLatest written kept) : kept ∈ written := by
  obtain ⟨earlier, later, rfl, -⟩ := first
  simp

theorem FirstOfLatest.last {written : List Value} {kept last : Value}
    (first : FirstOfLatest written kept) (wellKeyed : kept.WellKeyed)
    (ends : written.getLast? = some last) : last.looselySame kept = true := by
  obtain ⟨earlier, later, rfl, same, -⟩ := first
  have member : last ∈ kept :: later := by
    rw [List.getLast?_append_of_ne_nil _ (List.cons_ne_nil _ _)] at ends
    exact List.mem_of_getLast? ends
  rcases List.mem_cons.mp member with rfl | member
  · exact Value.sameUnder_refl wellKeyed
  · exact same last member

namespace PageRow

/-- What a column holds after values were written to it one after another. -/
def columnAfter (written : List Value) : Option Value :=
  written.foldl (fun held value => some (match held with
    | none => value
    | some seen => column seen value seen)) none

@[simp] theorem columnAfter_nil : columnAfter [] = none := rfl

theorem columnAfter_concat (written : List Value) (value : Value) :
    columnAfter (written ++ [value]) =
      some (match columnAfter written with
        | none => value
        | some seen => column seen value seen) := by
  simp [columnAfter]

theorem columnAfter_eq_none_iff {written : List Value} :
    columnAfter written = none ↔ written = [] := by
  induction written using List.reverseRecOn with
  | nil => simp
  | append_singleton written value _ => simp [columnAfter_concat]

theorem firstOfLatest_of_columnAfter {written : List Value} {kept : Value}
    (wellKeyed : ∀ value ∈ written, value.WellKeyed) (holds : columnAfter written = some kept) :
    FirstOfLatest written kept := by
  induction written using List.reverseRecOn generalizing kept with
  | nil => simp at holds
  | append_singleton written value induction =>
      rw [columnAfter_concat, Option.some.injEq] at holds
      have valueWellKeyed : value.WellKeyed := wellKeyed value (by simp)
      have before : ∀ old ∈ written, old.WellKeyed := fun old member =>
        wellKeyed old (by simp [member])
      cases held : columnAfter written with
      | none =>
          obtain rfl := columnAfter_eq_none_iff.mp held
          obtain rfl : value = kept := by simpa using holds
          exact ⟨[], [], rfl, by simp, by simp⟩
      | some seen =>
          have first := induction before held
          have seenWellKeyed := before seen first.mem
          by_cases same : value.looselySame seen = true
          · obtain rfl : seen = kept := by simpa [held, column, same] using holds
            obtain ⟨earlier, later, rfl, others, apart⟩ := first
            refine ⟨earlier, later ++ [value], by simp, ?_, apart⟩
            intro other member
            rcases List.mem_append.mp member with old | new
            · exact others other old
            · obtain rfl := List.mem_singleton.mp new
              exact same
          · obtain rfl : value = kept := by simpa [held, column, same] using holds
            refine ⟨written, [], rfl, by simp, ?_⟩
            intro last ends
            rw [← Bool.not_eq_true]
            intro sameAsLast
            -- the last value is the same as the one kept, so the new one would be, too
            apply same
            exact Value.sameUnder_trans Value.scalarsOnly_quantity? valueWellKeyed sameAsLast
              (first.last seenWellKeyed ends)

/-- A column holds just what was written last. -/
def Faithful (written : List Value) : Prop :=
  ∀ last ∈ written.getLast?, ∀ kept ∈ columnAfter written, kept.exactlySame last = true

theorem faithful_concat_iff {written : List Value} {value : Value}
    (wellKeyed : ∀ old ∈ written, old.WellKeyed) (valueWellKeyed : value.WellKeyed)
    (faithful : Faithful written) :
    Faithful (written ++ [value]) ↔
      ∀ last ∈ written.getLast?, value.looselySame last = true → value.exactlySame last = true := by
  have exact := @Value.sameUnder_trans (fun _ => none)
  have loose := @Value.sameUnder_trans Value.quantity?
  simp only [Faithful, List.getLast?_concat, Option.mem_def, Option.some.injEq, forall_eq',
    columnAfter_concat]
  cases ends : written.getLast? with
  | none =>
      obtain rfl := List.getLast?_eq_none_iff.mp ends
      simpa [Value.exactlySame] using Value.sameUnder_refl valueWellKeyed
  | some last =>
      have lastWellKeyed : last.WellKeyed := wellKeyed last (List.mem_of_getLast? ends)
      cases held : columnAfter written with
      | none =>
          obtain rfl := columnAfter_eq_none_iff.mp held
          simp at ends
      | some seen =>
          have seenWellKeyed : seen.WellKeyed :=
            wellKeyed seen (firstOfLatest_of_columnAfter wellKeyed held).mem
          have same : seen.exactlySame last = true := faithful last ends seen held
          have sameBack : last.exactlySame seen = true :=
            Value.sameUnder_symm Value.scalarsOnly_none seenWellKeyed lastWellKeyed same
          have alike : seen.looselySame last = true :=
            Value.sameUnder_mono Value.finer_none Value.scalarsOnly_quantity? seenWellKeyed same
          have alikeBack : last.looselySame seen = true :=
            Value.sameUnder_mono Value.finer_none Value.scalarsOnly_quantity? lastWellKeyed sameBack
          simp only [Option.some.injEq, forall_eq']
          constructor
          · intro kept sameAsLast
            have unwritten : value.looselySame seen = true :=
              loose Value.scalarsOnly_quantity? valueWellKeyed sameAsLast alikeBack
            rw [column, if_pos unwritten] at kept
            apply exact Value.scalarsOnly_none valueWellKeyed _ same
            exact Value.sameUnder_symm Value.scalarsOnly_none seenWellKeyed valueWellKeyed kept
          · intro told
            by_cases unwritten : value.looselySame seen = true
            · rw [column, if_pos unwritten]
              have sameAsLast : value.exactlySame last = true := by
                apply told
                exact loose Value.scalarsOnly_quantity? valueWellKeyed unwritten alike
              apply Value.sameUnder_symm Value.scalarsOnly_none valueWellKeyed seenWellKeyed
              exact exact Value.scalarsOnly_none valueWellKeyed sameAsLast sameBack
            · rw [column, if_neg unwritten]
              exact Value.sameUnder_refl valueWellKeyed

theorem faithful_prefixes_iff {written : List Value}
    (wellKeyed : ∀ value ∈ written, value.WellKeyed) :
    (∀ before, before <+: written → Faithful before) ↔
      written.IsChain fun one next =>
        next.looselySame one = true → next.exactlySame one = true := by
  induction written using List.reverseRecOn with
  | nil =>
      simp [Faithful]
  | append_singleton written value induction =>
      have older : ∀ old ∈ written, old.WellKeyed := fun old member =>
        wellKeyed old (by simp [member])
      have induction := induction older
      have lastStep (faithful : Faithful written) :=
        faithful_concat_iff older (wellKeyed value (by simp)) faithful
      simp only [List.prefix_concat_iff, forall_eq_or_imp, List.isChain_append,
        List.isChain_singleton, List.head?_cons, Option.mem_some_iff, forall_eq', true_and]
      constructor
      · rintro ⟨whole, before⟩
        exact ⟨induction.mp before, (lastStep (before written (List.prefix_refl written))).mp whole⟩
      · rintro ⟨chain, ends⟩
        have before := induction.mpr chain
        exact ⟨(lastStep (before written (List.prefix_refl written))).mpr ends, before⟩

end PageRow

namespace Errand

theorem mem_storedUnder_iff {slug : String} {errands : List Errand} {page : Value} :
    page ∈ storedUnder slug errands ↔ .store page ∈ errands ∧ Page.Storable slug page := by
  simp only [storedUnder, List.mem_filterMap]
  constructor
  · rintro ⟨errand, member, kept⟩
    cases errand with
    | store given =>
        by_cases storable : Page.Storable slug given
        · obtain rfl : given = page := by simpa [storable] using kept
          exact ⟨member, storable⟩
        · simp [storable] at kept
    | find asked => simp at kept
  · rintro ⟨member, storable⟩
    exact ⟨.store page, member, by simp [storable]⟩

end Errand

/-! ### What the two hold -/

namespace Shelf

theorem memory_accepts_iff {pages : MemoryPages} {page : Value} :
    memory.Accepts pages page ↔ ∃ slug, Page.Storable slug page := by
  constructor
  · rintro ⟨after, stored⟩
    obtain ⟨slug, storable, -⟩ := MemoryPages.add_ok_iff.mp stored
    exact ⟨slug, storable⟩
  · rintro ⟨slug, storable⟩
    exact ⟨_, MemoryPages.add_of_storable storable⟩

theorem table_accepts_iff {rows : PageTable} {page : Value} :
    table.Accepts rows page ↔ ∃ slug, Page.Storable slug page := by
  constructor
  · rintro ⟨after, stored⟩
    obtain ⟨slug, storable, -⟩ := PageTable.save_ok_iff.mp stored
    exact ⟨slug, storable⟩
  · rintro ⟨slug, storable⟩
    exact ⟨_, PageTable.save_of_storable storable⟩

theorem step_of_accepted {State : Type} {shelf : Shelf State} {state after : State} {page : Value}
    (stored : shelf.store state page = .ok after) : shelf.step state (.store page) = after := by
  simp [step, stored]

theorem step_of_refused {State : Type} {shelf : Shelf State} {state : State} {page : Value}
    (refused : ¬ shelf.Accepts state page) : shelf.step state (.store page) = state := by
  rcases stored : shelf.store state page with fault | after
  · simp [step, stored]
  · exact absurd ⟨after, stored⟩ refused

/-- What is seen of a collection under a slug after a run, when storing a page there writes it
and storing one elsewhere changes nothing. -/
theorem view_after {State View : Type} {shelf : Shelf State} {slug : String} {view : State → View}
    {write : View → Value → View}
    (accepts : ∀ state page, shelf.Accepts state page ↔ ∃ own, Page.Storable own page)
    (stores : ∀ state page own after, Page.Storable own page →
      shelf.store state page = .ok after →
        view after = if slug = own then write (view state) page else view state)
    (start : State) (errands : List Errand) :
    view (shelf.after start errands) =
      (Errand.storedUnder slug errands).foldl write (view start) := by
  induction errands generalizing start with
  | nil => rfl
  | cons errand rest induction =>
      refine (induction (shelf.step start errand)).trans ?_
      cases errand with
      | find asked => rfl
      | store page =>
          by_cases accepted : shelf.Accepts start page
          · obtain ⟨own, storable⟩ := (accepts start page).mp accepted
            obtain ⟨after, stored⟩ := accepted
            rw [step_of_accepted stored, stores start page own after storable stored]
            by_cases same : slug = own
            · subst same
              simp [Errand.storedUnder, storable]
            · have elsewhere : ¬ Page.Storable slug page := fun here =>
                same (here.unique storable)
              simp [Errand.storedUnder, elsewhere, same]
          · have nowhere : ¬ Page.Storable slug page := fun here =>
              accepted ((accepts start page).mpr ⟨slug, here⟩)
            rw [step_of_refused accepted]
            simp [Errand.storedUnder, nowhere]

theorem memory_after (slug : String) (errands : List Errand) :
    (memory.after .empty errands).entries.get? (.str slug) =
      (Errand.storedUnder slug errands).getLast? := by
  have last (stored : List Value) :
      stored.foldl (fun _ page => some page) none = stored.getLast? := by
    induction stored using List.reverseRecOn <;> simp
  rw [← last]
  apply @view_after _ _ memory slug (fun pages => pages.entries.get? (.str slug))
  · exact fun _ _ => memory_accepts_iff
  · intro pages page own after storable stored
    obtain ⟨own', storableToo, rfl⟩ := MemoryPages.add_ok_iff.mp stored
    obtain rfl := storable.unique storableToo
    by_cases same : slug = own
    · subst same
      simp [Keyed.get?_insert, Value.looselySame_str_iff]
    · simp [Keyed.get?_insert_of_ne (Ne.symm same), same]

/-- The table has in each column what a column has after the pages were written to it. -/
theorem table_after (slug : String) (errands : List Errand) (part : PagePart) :
    ((table.after .empty errands).select slug).map part.ofRow =
      PageRow.columnAfter ((Errand.storedUnder slug errands).map part.ofPage) := by
  rw [PageRow.columnAfter, List.foldl_map]
  apply @view_after _ _ table slug (fun rows => (rows.select slug).map part.ofRow)
  · exact fun _ _ => table_accepts_iff
  · intro rows page own after storable stored
    obtain ⟨own', storableToo, rfl⟩ := PageTable.save_ok_iff.mp stored
    obtain rfl := storable.unique storableToo
    have named : (PageRow.ofPage own page).slug = own := rfl
    rw [PageTable.select_store, named]
    by_cases same : slug = own
    · cases rows.select slug <;> simp [same]
    · simp [same]

/-! ### What the two answer -/

/-- Two answers with the same page, integers, doubles and truth values apart. -/
def SameAnswer (one other : Outcome Value) : Prop :=
  ∃ left right, one = .ok left ∧ other = .ok right ∧ right.exactlySame left = true

theorem sameAnswer_ok_iff {left right : Value} :
    SameAnswer (.ok left) (.ok right) ↔ right.exactlySame left = true := by
  constructor
  · rintro ⟨_, _, asked, askedToo, same⟩
    obtain rfl := Except.ok.inj asked
    obtain rfl := Except.ok.inj askedToo
    exact same
  · intro same
    exact ⟨left, right, rfl, rfl, same⟩

section

variable {slug : String} {errands : List Errand}

theorem memory_find (slug : String) (errands : List Errand) :
    memory.find (memory.after .empty errands) slug =
      .ok ((Errand.storedUnder slug errands).getLast?.getD .null) := by
  rw [← memory_after]
  rfl

theorem table_find_of_nil (nothing : Errand.storedUnder slug errands = []) :
    table.find (table.after .empty errands) slug = .ok .null := by
  have column := table_after slug errands .version
  rw [nothing, List.map_nil, PageRow.columnAfter_nil, Option.map_eq_none_iff] at column
  exact PageTable.find_of_select_none column

variable (wellKeyed : ∀ page ∈ Errand.storedUnder slug errands, page.WellKeyed)

include wellKeyed

theorem wellKeyed_columns (part : PagePart) :
    ∀ value ∈ (Errand.storedUnder slug errands).map part.ofPage, value.WellKeyed := by
  intro value member
  obtain ⟨page, stored, rfl⟩ := List.mem_map.mp member
  exact Page.wellKeyed_part (wellKeyed page stored) part

/-- What the table has under a slug is a row with the columns that a page can have. -/
theorem exists_row {page : Value}
    (ends : (Errand.storedUnder slug errands).getLast? = some page) :
    ∃ row : PageRow, table.find (table.after .empty errands) slug = .ok row.toPage ∧
      (∀ part : PagePart, PageRow.columnAfter ((Errand.storedUnder slug errands).map part.ofPage) =
        some (part.ofRow row)) ∧
      Page.Grammar Page.insideReading row.toPage ∧ row.toPage.WellKeyed := by
  have columns := table_after slug errands
  cases found : (table.after .empty errands).select slug with
  | none =>
      have column := columns .version
      rw [found, Option.map_none, eq_comm, PageRow.columnAfter_eq_none_iff,
        List.map_eq_nil_iff] at column
      simp [column] at ends
  | some row =>
      simp only [found, Option.map_some, eq_comm (a := some _)] at columns
      have kept (part : PagePart) := (PageRow.firstOfLatest_of_columnAfter
        (wellKeyed_columns wellKeyed part) (columns part)).mem
      have parts (part : PagePart) : part.Grammar Page.insideReading (part.ofRow row) := by
        obtain ⟨origin, stored, same⟩ := List.mem_map.mp (kept part)
        rw [← same]
        exact (Errand.mem_storedUnder_iff.mp stored).2.grammar.part part
      refine ⟨row, PageTable.find_of_select_some found parts, columns,
        Page.grammar_toPage row parts, Page.wellKeyed_toPage row fun part => ?_⟩
      exact wellKeyed_columns wellKeyed part _ (kept part)

theorem sameAnswer_iff :
    SameAnswer (memory.find (memory.after .empty errands) slug)
        (table.find (table.after .empty errands) slug) ↔
      ∀ part : PagePart,
        PageRow.Faithful ((Errand.storedUnder slug errands).map part.ofPage) := by
  cases ends : (Errand.storedUnder slug errands).getLast? with
  | none =>
      have nothing := List.getLast?_eq_none_iff.mp ends
      rw [table_find_of_nil nothing, memory_find, nothing, List.getLast?_nil, Option.getD_none,
        sameAnswer_ok_iff]
      simp only [PageRow.Faithful, List.map_nil, List.getLast?_nil, Option.mem_def, reduceCtorEq,
        false_implies, implies_true, iff_true]
      exact Value.sameUnder_refl (.scalar rfl)
  | some page =>
      obtain ⟨row, found, columns, grammar, rowWellKeyed⟩ := exists_row wellKeyed ends
      have stored := List.mem_of_getLast? ends
      have pageGrammar := (Errand.mem_storedUnder_iff.mp stored).2.grammar
      have parts : row.toPage.exactlySame page = true ↔
          ∀ part : PagePart, (part.ofRow row).exactlySame (part.ofPage page) = true := by
        simp only [Value.exactlySame]
        simpa using Page.same_iff_parts grammar pageGrammar rowWellKeyed (wellKeyed page stored)
      simp only [PageRow.Faithful, columns, List.getLast?_map, ends, Option.map_some,
        Option.mem_some_iff, forall_eq']
      rw [memory_find, found, ends, Option.getD_some, sameAnswer_ok_iff]
      exact parts

end

/-- Of two pages, each part that counts as the same is the same. -/
def ToldApart (one next : Value) : Prop :=
  ∀ part : PagePart, (part.ofPage next).looselySame (part.ofPage one) = true →
    (part.ofPage next).exactlySame (part.ofPage one) = true

theorem isChain_toldApart_iff {stored : List Value} :
    stored.IsChain ToldApart ↔ ∀ part : PagePart, (stored.map part.ofPage).IsChain fun one next =>
      next.looselySame one = true → next.exactlySame one = true := by
  simp only [List.isChain_map]
  simp only [List.isChain_iff_getElem, ToldApart]
  constructor
  · intro chain part index inside
    exact chain index inside part
  · intro chain index inside part
    exact chain part index inside

/-- Stored pages under a slug, before a run is over, are a beginning of those stored in the end,
and each beginning is reached. -/
theorem storedUnder_prefixes {slug : String} {errands : List Errand}
    {property : List Value → Prop} :
    (∀ earlier, earlier <+: errands → property (Errand.storedUnder slug earlier)) ↔
      ∀ before, before <+: Errand.storedUnder slug errands → property before := by
  constructor
  · intro each before beginning
    obtain ⟨earlier, reached, rfl⟩ := List.prefix_filterMap_iff.mp beginning
    exact each earlier reached
  · intro each earlier beginning
    apply each
    exact List.prefix_filterMap_iff.mpr ⟨earlier, beginning, rfl⟩

theorem faithful_columns_iff {stored : List Value} {part : PagePart}
    (wellKeyed : ∀ page ∈ stored, page.WellKeyed) :
    (∀ before, before <+: stored → PageRow.Faithful (before.map part.ofPage)) ↔
      (stored.map part.ofPage).IsChain fun one next =>
        next.looselySame one = true → next.exactlySame one = true := by
  rw [← PageRow.faithful_prefixes_iff]
  · simp only [List.prefix_map_iff]
    constructor
    · rintro each before ⟨stored, beginning, rfl⟩
      exact each stored beginning
    · intro each before beginning
      exact each _ ⟨before, beginning, rfl⟩
  · intro value member
    obtain ⟨page, stored, rfl⟩ := List.mem_map.mp member
    exact Page.wellKeyed_part (wellKeyed page stored) part

/-- Memory and table refuse the same pages.  Under a slug nothing was stored under, both have
nothing; else memory has the last page, and the table a page that counts as the same, of which
each part is the first of the latest ones that do.  They answer alike all the way if and only if
no two pages stored one after the other under a slug have a part that counts as the same and is
not. -/
theorem interchangeable_iff (errands : List Errand)
    (wellKeyed : ∀ page, .store page ∈ errands → page.WellKeyed) :
    (∀ page, (memory.Accepts (memory.after .empty errands) page ↔
          ∃ slug, Page.Storable slug page) ∧
        (table.Accepts (table.after .empty errands) page ↔ ∃ slug, Page.Storable slug page)) ∧
      (∀ slug, Errand.storedUnder slug errands = [] →
        memory.find (memory.after .empty errands) slug = .ok .null ∧
          table.find (table.after .empty errands) slug = .ok .null) ∧
      (∀ slug page, (Errand.storedUnder slug errands).getLast? = some page →
        memory.find (memory.after .empty errands) slug = .ok page ∧
          ∃ found, table.find (table.after .empty errands) slug = .ok found ∧
            found.looselySame page = true ∧ ∀ part : PagePart,
              FirstOfLatest ((Errand.storedUnder slug errands).map part.ofPage)
                (part.ofPage found)) ∧
      ((∀ earlier, earlier <+: errands → ∀ slug,
          SameAnswer (memory.find (memory.after .empty earlier) slug)
            (table.find (table.after .empty earlier) slug)) ↔
        ∀ slug, (Errand.storedUnder slug errands).IsChain ToldApart) := by
  have stored (slug : String) : ∀ page ∈ Errand.storedUnder slug errands, page.WellKeyed :=
    fun page member => wellKeyed page (Errand.mem_storedUnder_iff.mp member).1
  refine ⟨fun page => ⟨memory_accepts_iff, table_accepts_iff⟩, ?_, ?_, ?_⟩
  · intro slug nothing
    constructor
    · rw [memory_find, nothing]
      rfl
    · exact table_find_of_nil nothing
  · intro slug page ends
    constructor
    · rw [memory_find, ends]
      rfl
    · obtain ⟨row, found, columns, grammar, rowWellKeyed⟩ := exists_row (stored slug) ends
      have kept (part : PagePart) := PageRow.firstOfLatest_of_columnAfter
        (wellKeyed_columns (stored slug) part) (columns part)
      refine ⟨row.toPage, found, ?_, by simpa using kept⟩
      have last := List.mem_of_getLast? ends
      have pageWellKeyed := stored slug page last
      apply (Page.same_iff_parts grammar (Errand.mem_storedUnder_iff.mp last).2.grammar
        rowWellKeyed pageWellKeyed).mpr
      intro part
      have keptWellKeyed := Page.wellKeyed_part rowWellKeyed part
      have lastWellKeyed := Page.wellKeyed_part pageWellKeyed part
      apply Value.sameUnder_symm Value.scalarsOnly_quantity? lastWellKeyed keptWellKeyed
      rw [PagePart.ofPage_toPage] at keptWellKeyed ⊢
      exact (kept part).last keptWellKeyed (by simp [ends])
  · have answers (earlier : List Errand) (beginning : earlier <+: errands) (slug : String) :=
      @sameAnswer_iff slug earlier fun page member =>
        wellKeyed page (beginning.subset (Errand.mem_storedUnder_iff.mp member).1)
    calc (∀ earlier, earlier <+: errands → ∀ slug,
          SameAnswer (memory.find (memory.after .empty earlier) slug)
            (table.find (table.after .empty earlier) slug))
        ↔ ∀ slug, ∀ part : PagePart, ∀ earlier, earlier <+: errands →
            PageRow.Faithful ((Errand.storedUnder slug earlier).map part.ofPage) := by
          constructor
          · intro alike slug part earlier beginning
            exact (answers earlier beginning slug).mp (alike earlier beginning slug) part
          · intro faithful earlier beginning slug
            exact (answers earlier beginning slug).mpr fun part =>
              faithful slug part earlier beginning
      _ ↔ ∀ slug, ∀ part : PagePart, ∀ before, before <+: Errand.storedUnder slug errands →
            PageRow.Faithful (before.map part.ofPage) := by
          apply forall_congr'
          intro slug
          apply forall_congr'
          intro part
          exact @storedUnder_prefixes _ _ fun stored =>
            PageRow.Faithful (stored.map part.ofPage)
      _ ↔ ∀ slug, (Errand.storedUnder slug errands).IsChain ToldApart := by
          apply forall_congr'
          intro slug
          rw [isChain_toldApart_iff]
          apply forall_congr'
          intro part
          exact faithful_columns_iff (stored slug)

def recounted : List Errand :=
  [.store (Page.counting "1.0.0" (.int 1)), .find "about", .store (Page.counting "1.0.0" (.int 2))]

theorem storedUnder_recounted {slug : String} (other : slug ≠ "about") :
    Errand.storedUnder slug recounted = [] := by
  rw [List.eq_nil_iff_forall_not_mem]
  intro page member
  obtain ⟨stored, storable⟩ := Errand.mem_storedUnder_iff.mp member
  apply other
  apply storable.unique
  simp only [recounted, List.mem_cons, Errand.store.injEq, reduceCtorEq, List.not_mem_nil,
    or_false, false_or] at stored
  rcases stored with rfl | rfl <;> decide +kernel

theorem interchangeable_iff_recounted :
    (∀ page, .store page ∈ recounted → page.WellKeyed) ∧
      ∀ earlier, earlier <+: recounted → ∀ slug,
        SameAnswer (memory.find (memory.after .empty earlier) slug)
          (table.find (table.after .empty earlier) slug) := by
  have wellKeyed : ∀ page, .store page ∈ recounted → page.WellKeyed := by
    intro page stored
    simp only [recounted, List.mem_cons, Errand.store.injEq, reduceCtorEq, List.not_mem_nil,
      or_false, false_or] at stored
    rcases stored with rfl | rfl <;> exact Page.wellKeyed_counting rfl
  refine ⟨wellKeyed, (interchangeable_iff recounted wellKeyed).2.2.2.mpr ?_⟩
  intro slug
  by_cases about : slug = "about"
  · subst about
    have stored : Errand.storedUnder "about" recounted =
        [Page.counting "1.0.0" (.int 1), Page.counting "1.0.0" (.int 2)] := by decide +kernel
    rw [stored]
    apply List.isChain_pair.mpr
    intro part
    cases part <;> decide +kernel
  · rw [storedUnder_recounted about]
    exact List.isChain_nil

theorem table_keeps_one :
    memory.find (memory.after .empty
        [.store (Page.counting "1.0.0" (.int 1)), .store (Page.counting "1.0.0" (.bool true))])
      "about" = .ok (Page.counting "1.0.0" (.bool true)) ∧
    table.find (table.after .empty
        [.store (Page.counting "1.0.0" (.int 1)), .store (Page.counting "1.0.0" (.bool true))])
      "about" = .ok (Page.counting "1.0.0" (.int 1)) ∧
    ¬ SameAnswer (.ok (Page.counting "1.0.0" (.bool true)))
      (.ok (Page.counting "1.0.0" (.int 1))) := by
  refine ⟨by decide +kernel, by decide +kernel, ?_⟩
  rw [sameAnswer_ok_iff]
  decide +kernel

end Shelf

end PageComposer
