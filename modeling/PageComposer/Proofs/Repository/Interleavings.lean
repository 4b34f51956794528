import Mathlib.Logic.Relation
import PageComposer.Proofs.Repository.Parts

/-!
# Saves at the same time

Each save reads the row of its slug and then writes the columns it takes for changed, and the
steps of several saves come in any order.  What is found in the end is a page made of the parts
of pages, but not always one of the pages that were saved: one save may leave a column to the
other.  `Traffic.blendless_iff` says between which pages this cannot happen.
-/

namespace PageComposer

/-- How far a save of a page has come, and what it has read. -/
inductive Saving where
  | waiting (page : Value)
  | ready (page : Value) (seen : Option PageRow)
  | done (page : Value)
  deriving DecidableEq, Repr

structure Traffic where
  table : PageTable
  saves : List Saving
  deriving DecidableEq, Repr

namespace Traffic

def start (table : PageTable) (pages : List Value) : Traffic := ⟨table, pages.map .waiting⟩

/-- One save reads, or one writes what it is to write. -/
inductive Step (slug : String) : Traffic → Traffic → Prop where
  | read {table : PageTable} {before after : List Saving} {page : Value} :
      Step slug ⟨table, before ++ .waiting page :: after⟩
        ⟨table, before ++ .ready page (table.select slug) :: after⟩
  | write {table : PageTable} {before after : List Saving} {page : Value}
      {seen : Option PageRow} :
      Step slug ⟨table, before ++ .ready page seen :: after⟩
        ⟨table.flush seen (.ofPage slug page), before ++ .done page :: after⟩

/-- A run in which all saves come through. -/
def Completes (slug : String) (table : PageTable) (pages : List Value) (after : PageTable) :
    Prop :=
  Relation.ReflTransGen (Step slug) (start table pages) ⟨after, pages.map .done⟩

/-- A save with nobody else around is a read and a write. -/
theorem completes_save {slug : String} {table after : PageTable} {page : Value}
    (storable : Page.Storable slug page) (saved : table.save page = .ok after) :
    Completes slug table [page] after := by
  rw [PageTable.save_of_storable storable, Except.ok.injEq] at saved
  subst saved
  apply Relation.ReflTransGen.tail
  · exact .single (@Step.read slug table [] [] page)
  · exact @Step.write slug table [] [] page (table.select slug)

end Traffic

/-! ### Where the parts come from -/

/-- Each part is that of a page. -/
def PageRow.MadeOf (pages : List Value) (row : PageRow) : Prop :=
  ∀ part : PagePart, ∃ page ∈ pages, part.ofRow row = part.ofPage page

def Saving.MadeOf (pages : List Value) : Saving → Prop
  | waiting page => page ∈ pages
  | ready page seen => page ∈ pages ∧ ∃ row, seen = some row ∧ row.MadeOf pages
  | done page => page ∈ pages

/-- There is a row, and it and all that was read is made of the parts of pages. -/
structure Traffic.MadeOf (slug : String) (pages : List Value) (traffic : Traffic) : Prop where
  row : ∃ row, traffic.table.select slug = some row ∧ row.MadeOf pages
  saves : ∀ save ∈ traffic.saves, save.MadeOf pages

variable {slug : String} {pages : List Value}

theorem PageRow.madeOf_ofPage {page : Value} (member : page ∈ pages) :
    (PageRow.ofPage slug page).MadeOf pages := by
  intro part
  exact ⟨page, member, PagePart.ofRow_ofPage part slug page⟩

theorem PageRow.MadeOf.update {seen wanted row : PageRow} (wantedMade : wanted.MadeOf pages)
    (made : row.MadeOf pages) : (PageRow.update seen wanted row).MadeOf pages := by
  intro part
  rw [PagePart.ofRow_update, column]
  split
  · exact made part
  · exact wantedMade part

theorem PageRow.MadeOf.wellKeyed {row : PageRow} (made : row.MadeOf pages)
    (wellKeyed : ∀ page ∈ pages, page.WellKeyed) (part : PagePart) :
    (part.ofRow row).WellKeyed := by
  obtain ⟨page, member, same⟩ := made part
  rw [same]
  exact Page.wellKeyed_part (wellKeyed page member) part

theorem PageRow.MadeOf.grammar {row : PageRow} (made : row.MadeOf pages)
    (storable : ∀ page ∈ pages, Page.Storable slug page) (part : PagePart) :
    part.Grammar Page.insideReading (part.ofRow row) := by
  obtain ⟨page, member, same⟩ := made part
  rw [same]
  exact (storable page member).grammar.part part

theorem PageTable.select_flush_own {table : PageTable} {row seen : PageRow} {page : Value}
    (found : table.select slug = some row) :
    (table.flush (some seen) (.ofPage slug page)).select slug =
      some (PageRow.update seen (.ofPage slug page) row) := by
  rw [PageTable.select_flush_some, if_pos (by rfl), found, Option.map_some]

theorem Traffic.MadeOf.step {traffic next : Traffic} (made : traffic.MadeOf slug pages)
    (step : Step slug traffic next) : next.MadeOf slug pages := by
  obtain ⟨⟨row, found, rowMade⟩, saves⟩ := made
  cases step with
  | read =>
      simp only [List.forall_mem_append, List.forall_mem_cons] at saves
      obtain ⟨before, member, after⟩ := saves
      refine ⟨⟨row, found, rowMade⟩, ?_⟩
      simp only [List.forall_mem_append, List.forall_mem_cons]
      exact ⟨before, ⟨member, row, found, rowMade⟩, after⟩
  | @write table _ _ page _ =>
      simp only [List.forall_mem_append, List.forall_mem_cons] at saves
      obtain ⟨before, ⟨member, seen, rfl, seenMade⟩, after⟩ := saves
      constructor
      · refine ⟨PageRow.update seen (.ofPage slug page) row, ?_, ?_⟩
        · exact PageTable.select_flush_own found
        · exact (PageRow.madeOf_ofPage member).update rowMade
      · simp only [List.forall_mem_append, List.forall_mem_cons]
        exact ⟨before, member, after⟩

theorem Traffic.madeOf_start {table : PageTable} {stored : Value} {saves : List Value}
    (holds : table.select slug = some (.ofPage slug stored)) (member : stored ∈ pages)
    (members : saves ⊆ pages) : (start table saves).MadeOf slug pages := by
  constructor
  · exact ⟨_, holds, PageRow.madeOf_ofPage member⟩
  · intro save among
    obtain ⟨page, given, rfl⟩ := List.mem_map.mp among
    exact members given

theorem Traffic.MadeOf.steps {traffic after : Traffic} (made : traffic.MadeOf slug pages)
    (steps : Relation.ReflTransGen (Step slug) traffic after) : after.MadeOf slug pages := by
  induction steps with
  | refl => exact made
  | tail _ step induction => exact induction.step step

/-! ### What lasts of the last write -/

/-- A relation of rows to pages that holds of a page's own row and of what it was written to when
it was read just before, and that a later write leaves or sets up anew. -/
structure Lasting (slug : String) (pages : List Value) (related : PageRow → Value → Prop) :
    Prop where
  own : ∀ page ∈ pages, related (.ofPage slug page) page
  first : ∀ stored ∈ pages, ∀ page ∈ pages,
    related (.update (.ofPage slug stored) (.ofPage slug page) (.ofPage slug stored)) page
  later : ∀ row seen : PageRow, row.MadeOf pages → seen.MadeOf pages →
    ∀ origin ∈ pages, related seen origin → ∀ latest ∈ pages, related row latest →
      ∀ page ∈ pages, related (.update seen (.ofPage slug page) row) page ∨
        related (.update seen (.ofPage slug page) row) latest

/-- Nothing has been written yet, and all that was read is the stored page. -/
structure Traffic.Untouched (slug : String) (stored : Value) (traffic : Traffic) : Prop where
  row : traffic.table.select slug = some (.ofPage slug stored)
  seen : ∀ save ∈ traffic.saves, (∃ page, save = .waiting page) ∨
    ∃ page, save = .ready page (some (.ofPage slug stored))

/-- The row is related to a page that was written, and what was read is related to some page. -/
structure Traffic.Touched (slug : String) (pages : List Value)
    (related : PageRow → Value → Prop) (traffic : Traffic) : Prop where
  row : ∃ row, traffic.table.select slug = some row ∧
    ∃ page, .done page ∈ traffic.saves ∧ related row page
  seen : ∀ page row, .ready page (some row) ∈ traffic.saves → ∃ origin ∈ pages, related row origin

namespace Traffic

variable {stored : Value} {related : PageRow → Value → Prop} {traffic next : Traffic}

theorem Untouched.step (lasting : Lasting slug pages related) (member : stored ∈ pages)
    (made : traffic.MadeOf slug pages) (untouched : traffic.Untouched slug stored)
    (step : Step slug traffic next) :
    next.Untouched slug stored ∨ next.Touched slug pages related := by
  obtain ⟨found, seen⟩ := untouched
  cases step with
  | read =>
      left
      refine ⟨found, ?_⟩
      simp only [List.forall_mem_append, List.forall_mem_cons] at seen ⊢
      exact ⟨seen.1, .inr ⟨_, by rw [← found]⟩, seen.2.2⟩
  | @write table before after page given =>
      right
      have saves := made.saves
      simp only [List.forall_mem_append, List.forall_mem_cons] at seen saves
      obtain ⟨unwritten, here, unwrittenToo⟩ := seen
      obtain rfl : given = some (.ofPage slug stored) := by simpa using here
      constructor
      · refine ⟨_, PageTable.select_flush_own found, page, by simp, ?_⟩
        exact lasting.first stored member page saves.2.1.1
      · intro other row among
        -- what others have read is the stored page
        have read : Saving.ready other (some row) ∈ before ∨
            Saving.ready other (some row) ∈ after := by
          simpa using among
        have same : row = .ofPage slug stored := by
          rcases read with early | late
          · simpa using unwritten _ early
          · simpa using unwrittenToo _ late
        exact ⟨stored, member, same ▸ lasting.own stored member⟩

theorem Touched.step (lasting : Lasting slug pages related) (made : traffic.MadeOf slug pages)
    (touched : traffic.Touched slug pages related) (step : Step slug traffic next) :
    next.Touched slug pages related := by
  obtain ⟨⟨row, found, latest, written, holds⟩, seen⟩ := touched
  have saves := made.saves
  have latestMember : latest ∈ pages := saves _ written
  cases step with
  | read =>
      refine ⟨⟨row, found, latest, by simpa using written, holds⟩, ?_⟩
      intro page other among
      rcases List.mem_append.mp among with early | among
      · exact seen page other (List.mem_append_left _ early)
      · rcases List.mem_cons.mp among with here | late
        · obtain ⟨-, rfl⟩ : page = _ ∧ other = row := by simpa [found] using here
          exact ⟨latest, latestMember, holds⟩
        · exact seen page other (List.mem_append_right _ (List.mem_cons_of_mem _ late))
  | @write table before after page given =>
      have elsewhere : .done latest ∈ before ∨ .done latest ∈ after := by simpa using written
      obtain ⟨member, read, rfl, readMade⟩ := saves (.ready page given) (by simp)
      obtain ⟨origin, originMember, readFrom⟩ := seen page read (by simp)
      obtain ⟨row', found', rowMade⟩ := made.row
      obtain rfl : row = row' := Option.some.inj (found.symm.trans found')
      constructor
      · refine ⟨_, PageTable.select_flush_own found, ?_⟩
        rcases lasting.later row read rowMade readMade origin originMember readFrom latest
          latestMember holds page member with new | old
        · exact ⟨page, by simp, new⟩
        · exact ⟨latest, by simpa using elsewhere.imp_right .inr, old⟩
      · intro other row among
        apply seen other row
        have among : .ready other (some row) ∈ before ∨ .ready other (some row) ∈ after := by
          simpa using among
        simpa using among.imp_right .inr

/-- A lasting relation holds in the end between the row and a page that was saved. -/
theorem Completes.lasts (lasting : Lasting slug pages related) {table after : PageTable}
    {saves : List Value} (member : stored ∈ pages) (members : saves ⊆ pages) (nonempty : saves ≠ [])
    (holds : table.select slug = some (.ofPage slug stored))
    (completes : Completes slug table saves after) :
    ∃ row, after.select slug = some row ∧ row.MadeOf pages ∧ ∃ page ∈ saves, related row page := by
  have made : ∀ {traffic}, Relation.ReflTransGen (Step slug) (start table saves) traffic →
      traffic.MadeOf slug pages := (madeOf_start holds member members).steps
  -- along the run: nothing is written before the first write, and then the relation lasts
  have phases : ∀ {traffic}, Relation.ReflTransGen (Step slug) (start table saves) traffic →
      traffic.Untouched slug stored ∨ traffic.Touched slug pages related := by
    intro traffic steps
    induction steps with
    | refl =>
        left
        refine ⟨holds, fun save among => .inl ?_⟩
        obtain ⟨page, -, rfl⟩ := List.mem_map.mp among
        exact ⟨page, rfl⟩
    | tail earlier step induction =>
        rcases induction with untouched | touched
        · exact untouched.step lasting member (made earlier) step
        · exact .inr (touched.step lasting (made earlier) step)
  obtain ⟨row, found, rowMade⟩ := (made completes).row
  refine ⟨row, found, rowMade, ?_⟩
  rcases phases completes with untouched | touched
  -- some save has written, so the first phase is over
  · obtain ⟨page, given⟩ := List.exists_mem_of_ne_nil saves nonempty
    have pending := untouched.seen (.done page) (List.mem_map_of_mem given)
    simp at pending
  · obtain ⟨row', found', page, written, holds⟩ := touched.row
    obtain rfl : row = row' := Option.some.inj (found.symm.trans found')
    exact ⟨page, by simpa using written, holds⟩

end Traffic

/-! ### What a row has in common with a page that was saved -/

/-- Two of the pages differ in a part, where a given function says what counts as a number. -/
def Varies (asNumber : Value → Option Number) (pages : List Value) (part : PagePart) : Prop :=
  ∃ one ∈ pages, ∃ other ∈ pages,
    Value.sameUnder asNumber (part.ofPage one) (part.ofPage other) = false

/-- Pages that differ at all differ in all parts in which any do, and so that it shows. -/
def AllOrNothing (asNumber : Value → Option Number) (pages : List Value) : Prop :=
  ∀ one ∈ pages, ∀ other ∈ pages, ∀ part : PagePart, Varies asNumber pages part →
    (part.ofPage one).looselySame (part.ofPage other) = true →
      Value.sameUnder asNumber one other = true

def PageRow.Same (asNumber : Value → Option Number) (row : PageRow) (page : Value) : Prop :=
  ∀ part : PagePart, Value.sameUnder asNumber (part.ofRow row) (part.ofPage page) = true

section

variable {asNumber : Value → Option Number} (wellKeyed : ∀ page ∈ pages, page.WellKeyed)

include wellKeyed

theorem wellKeyed_partOf {page : Value} (member : page ∈ pages) (part : PagePart) :
    (part.ofPage page).WellKeyed :=
  Page.wellKeyed_part (wellKeyed page member) part

theorem lasting_part (part : PagePart) :
    Lasting slug pages fun row page =>
      (part.ofRow row).looselySame (part.ofPage page) = true := by
  have keyed {page : Value} (member : page ∈ pages) := wellKeyed_partOf wellKeyed member part
  constructor
  · intro page member
    rw [PagePart.ofRow_ofPage]
    exact Value.sameUnder_refl (keyed member)
  · intro stored member page memberToo
    simp only [PagePart.ofRow_update, PagePart.ofRow_ofPage, PageRow.column]
    split
    · rename_i unwritten
      apply Value.sameUnder_symm Value.scalarsOnly_quantity? (keyed memberToo) (keyed member)
      exact unwritten
    · exact Value.sameUnder_refl (keyed memberToo)
  · intro row seen rowMade seenMade origin _ _ latest _ holds page member
    simp only [PagePart.ofRow_update, PagePart.ofRow_ofPage, PageRow.column]
    split
    · exact .inr holds
    · exact .inl (Value.sameUnder_refl (keyed member))

variable (storable : ∀ page ∈ pages, Page.Storable slug page)

include storable

theorem same_parts_iff {one other : Value} (member : one ∈ pages) (memberToo : other ∈ pages) :
    Value.sameUnder asNumber one other = true ↔ ∀ part : PagePart,
      Value.sameUnder asNumber (part.ofPage one) (part.ofPage other) = true :=
  Page.same_iff_parts (storable one member).grammar (storable other memberToo).grammar
    (wellKeyed one member) (wellKeyed other memberToo)

theorem same_toPage_iff {row : PageRow} {page : Value} (made : row.MadeOf pages)
    (member : page ∈ pages) :
    Value.sameUnder asNumber row.toPage page = true ↔ row.Same asNumber page := by
  have parts := @Page.same_iff_parts _ _ _ asNumber
    (Page.grammar_toPage row fun part => made.grammar storable part)
    (storable page member).grammar
    (Page.wellKeyed_toPage row fun part => made.wellKeyed wellKeyed part) (wellKeyed page member)
  simpa [PageRow.Same] using parts

variable (finer : Value.Finer asNumber Value.quantity?)

include finer

/-- A write leaves the page that is written, or nothing at all was to be written. -/
theorem update_same (allOrNothing : AllOrNothing asNumber pages) {row seen : PageRow}
    (rowMade : row.MadeOf pages) (seenMade : seen.MadeOf pages) {origin latest page : Value}
    (originMember : origin ∈ pages) (readFrom : seen.Same asNumber origin)
    (latestMember : latest ∈ pages) (holds : row.Same asNumber latest) (member : page ∈ pages) :
    (PageRow.update seen (.ofPage slug page) row).Same asNumber page ∨
      (∀ part : PagePart,
        part.ofRow (PageRow.update seen (.ofPage slug page) row) = part.ofRow row) ∧
        ∀ part : PagePart,
          Value.sameUnder asNumber (part.ofPage page) (part.ofPage origin) = true := by
  have scalars : Value.ScalarsOnly asNumber := finer.scalarsOnly Value.scalarsOnly_quantity?
  simp only [PageRow.Same, PagePart.ofRow_update, PagePart.ofRow_ofPage, PageRow.column]
  by_cases left : ∃ part : PagePart, Varies asNumber pages part ∧
      (part.ofPage page).looselySame (part.ofRow seen) = true
  · right
    obtain ⟨part, varies, unwritten⟩ := left
    have pageKeyed (part : PagePart) := wellKeyed_partOf wellKeyed member part
    have seenKeyed (part : PagePart) := seenMade.wellKeyed wellKeyed part
    have sameAsOrigin : (part.ofPage page).looselySame (part.ofPage origin) = true := by
      apply Value.sameUnder_trans Value.scalarsOnly_quantity? (pageKeyed part) unwritten
      exact Value.sameUnder_mono finer Value.scalarsOnly_quantity? (seenKeyed part) (readFrom part)
    have same := (same_parts_iff wellKeyed storable member originMember).mp
      (allOrNothing page member origin originMember part varies sameAsOrigin)
    refine ⟨fun part => if_pos ?_, same⟩
    apply Value.sameUnder_mono finer Value.scalarsOnly_quantity? (pageKeyed part)
    apply Value.sameUnder_trans scalars (pageKeyed part) (same part)
    exact Value.sameUnder_symm scalars (seenKeyed part)
      (wellKeyed_partOf wellKeyed originMember part) (readFrom part)
  · left
    intro part
    split
    · rename_i unwritten
      -- a part in which no pages differ is that of every page
      have alike : Value.sameUnder asNumber (part.ofPage latest) (part.ofPage page) = true := by
        rw [← Bool.not_eq_false]
        intro differ
        exact left ⟨part, ⟨latest, latestMember, page, member, differ⟩, unwritten⟩
      exact Value.sameUnder_trans scalars (rowMade.wellKeyed wellKeyed part) (holds part) alike
    · exact Value.sameUnder_refl (wellKeyed_partOf wellKeyed member part)

theorem lasting_same (allOrNothing : AllOrNothing asNumber pages) :
    Lasting slug pages (PageRow.Same asNumber) := by
  have own (page : Value) (member : page ∈ pages) :
      (PageRow.ofPage slug page).Same asNumber page := by
    intro part
    rw [PagePart.ofRow_ofPage]
    exact Value.sameUnder_refl (wellKeyed_partOf wellKeyed member part)
  have update := @update_same slug pages asNumber wellKeyed storable finer allOrNothing
  constructor
  · exact own
  · intro stored member page memberToo
    rcases update (PageRow.madeOf_ofPage member) (PageRow.madeOf_ofPage member) member
      (own stored member) member (own stored member) memberToo with new | ⟨unwritten, same⟩
    · exact new
    · intro part
      rw [unwritten, PagePart.ofRow_ofPage]
      exact Value.sameUnder_symm (finer.scalarsOnly Value.scalarsOnly_quantity?)
        (wellKeyed_partOf wellKeyed memberToo part) (wellKeyed_partOf wellKeyed member part)
        (same part)
  · intro row seen rowMade seenMade origin originMember readFrom latest latestMember holds page
      member
    rcases update rowMade seenMade originMember readFrom latestMember holds member with
      new | ⟨unwritten, -⟩
    · exact .inl new
    · right
      intro part
      rw [unwritten]
      exact holds part

end

/-! ### Pages that do not blend -/

/-- However the steps of saves of some of the pages come, what is found in the end is one of the
pages that were saved. -/
def Blendless (asNumber : Value → Option Number) (slug : String) (pages : List Value) : Prop :=
  ∀ table after : PageTable, ∀ stored ∈ pages, ∀ saves ⊆ pages, saves ≠ [] →
    table.select slug = some (.ofPage slug stored) → Traffic.Completes slug table saves after →
      ∃ found, after.find (.str slug) = .ok found ∧
        ∃ page ∈ saves, Value.sameUnder asNumber found page = true

def PageTable.single (slug : String) (page : Value) : PageTable := ⟨[.ofPage slug page]⟩

theorem PageTable.select_single (slug : String) (page : Value) :
    (single slug page).select slug = some (.ofPage slug page) := by
  simp [single, select, PageRow.ofPage]

namespace Traffic

theorem completes_single (slug : String) (stored page : Value) :
    ∃ after, Completes slug (.single slug stored) [page] after ∧
      after.select slug =
        some (.update (.ofPage slug stored) (.ofPage slug page) (.ofPage slug stored)) := by
  have before := PageTable.select_single slug stored
  refine ⟨_, ?_, PageTable.select_flush_own before⟩
  apply Relation.ReflTransGen.tail
  · exact .single (@Step.read slug (.single slug stored) [] [] page)
  · rw [before]
    exact @Step.write slug (.single slug stored) [] [] page _

/-- Both saves read before either writes; the second one writes last. -/
theorem completes_overlapping (slug : String) (stored last first : Value) :
    ∃ after, Completes slug (.single slug stored) [last, first] after ∧
      after.select slug = some (.update (.ofPage slug stored) (.ofPage slug last)
        (.update (.ofPage slug stored) (.ofPage slug first) (.ofPage slug stored))) := by
  have before := PageTable.select_single slug stored
  refine ⟨_, ?_, PageTable.select_flush_own (PageTable.select_flush_own before)⟩
  apply Relation.ReflTransGen.head (@Step.read slug (.single slug stored) [] [.waiting first] last)
  rw [before]
  apply Relation.ReflTransGen.head
    (@Step.read slug (.single slug stored) [.ready last (some (.ofPage slug stored))] [] first)
  rw [before]
  apply Relation.ReflTransGen.head
    (@Step.write slug (.single slug stored) [.ready last (some (.ofPage slug stored))] [] first _)
  exact .single (@Step.write slug _ [] [.done first] last _)

end Traffic

section

variable {asNumber : Value → Option Number} (wellKeyed : ∀ page ∈ pages, page.WellKeyed)
  (storable : ∀ page ∈ pages, Page.Storable slug page)
  (finer : Value.Finer asNumber Value.quantity?)

include wellKeyed storable finer

theorem blendless_of_allOrNothing (allOrNothing : AllOrNothing asNumber pages) :
    Blendless asNumber slug pages := by
  intro table after stored member saves members nonempty holds completes
  obtain ⟨row, found, made, page, saved, same⟩ := completes.lasts
    (lasting_same wellKeyed storable finer allOrNothing) member members nonempty holds
  refine ⟨row.toPage, PageTable.find_of_select_some found fun part => made.grammar storable part,
    page, saved, ?_⟩
  exact (same_toPage_iff wellKeyed storable made (members saved)).mpr same

omit finer in
theorem Blendless.row_same (blendless : Blendless asNumber slug pages) {stored : Value}
    (member : stored ∈ pages) {saves : List Value} (members : saves ⊆ pages)
    (nonempty : saves ≠ []) {after : PageTable} {row : PageRow}
    (completes : Traffic.Completes slug (.single slug stored) saves after)
    (found : after.select slug = some row) (made : row.MadeOf pages) :
    ∃ page ∈ saves, row.Same asNumber page := by
  obtain ⟨answer, asked, page, saved, same⟩ := blendless _ after stored member saves members
    nonempty (PageTable.select_single slug stored) completes
  have askedToo := PageTable.find_of_select_some found fun part => made.grammar storable part
  obtain rfl := Except.ok.inj (asked.symm.trans askedToo)
  exact ⟨page, saved, (same_toPage_iff wellKeyed storable made (members saved)).mp same⟩

theorem Blendless.same_of_looselySame (blendless : Blendless asNumber slug pages)
    {one other : Value} (member : one ∈ pages) (memberToo : other ∈ pages) {part : PagePart}
    (alike : (part.ofPage one).looselySame (part.ofPage other) = true) :
    Value.sameUnder asNumber (part.ofPage one) (part.ofPage other) = true := by
  obtain ⟨after, completes, found⟩ := Traffic.completes_single slug other one
  have made : (PageRow.update (.ofPage slug other) (.ofPage slug one)
      (.ofPage slug other)).MadeOf pages :=
    (PageRow.madeOf_ofPage member).update (PageRow.madeOf_ofPage memberToo)
  obtain ⟨page, saved, same⟩ := blendless.row_same wellKeyed storable memberToo
    (by simpa using member) (by simp) completes found made
  obtain rfl : page = one := by simpa using saved
  have kept := same part
  simp only [PagePart.ofRow_update, PagePart.ofRow_ofPage, PageRow.column, alike,
    if_true] at kept
  exact Value.sameUnder_symm (finer.scalarsOnly Value.scalarsOnly_quantity?)
    (wellKeyed_partOf wellKeyed memberToo part) (wellKeyed_partOf wellKeyed member part) kept

/-- A save that leaves one part to another save and writes a second part over the other's makes
a page that is neither. -/
theorem Blendless.not_overlapping (blendless : Blendless asNumber slug pages)
    {stored last first : Value} (member : stored ∈ pages) (lastMember : last ∈ pages)
    (firstMember : first ∈ pages) {left written : PagePart}
    (leftAlone : (left.ofPage last).looselySame (left.ofPage stored) = true)
    (firstLeft : ¬ Value.sameUnder asNumber (left.ofPage first) (left.ofPage stored) = true)
    (lastWritten : ¬ Value.sameUnder asNumber (written.ofPage last)
      (written.ofPage stored) = true) :
    Value.sameUnder asNumber (written.ofPage last) (written.ofPage first) = true := by
  have scalars : Value.ScalarsOnly asNumber := finer.scalarsOnly Value.scalarsOnly_quantity?
  have loosely {one other : Value} (oneMember : one ∈ pages) (otherMember : other ∈ pages)
      {part : PagePart} (differ : ¬ Value.sameUnder asNumber (part.ofPage one)
        (part.ofPage other) = true) : ¬ (part.ofPage one).looselySame (part.ofPage other) = true :=
    fun alike => differ <|
      blendless.same_of_looselySame wellKeyed storable finer oneMember otherMember alike
  obtain ⟨after, completes, found⟩ := Traffic.completes_overlapping slug stored last first
  have made : (PageRow.update (.ofPage slug stored) (.ofPage slug last)
      (.update (.ofPage slug stored) (.ofPage slug first) (.ofPage slug stored))).MadeOf pages :=
    (PageRow.madeOf_ofPage lastMember).update
      ((PageRow.madeOf_ofPage firstMember).update (PageRow.madeOf_ofPage member))
  have members : [last, first] ⊆ pages := by simp [lastMember, firstMember]
  obtain ⟨page, saved, same⟩ := blendless.row_same wellKeyed storable member members (by simp)
    completes found made
  have sameLeft := same left
  have sameWritten := same written
  simp only [PagePart.ofRow_update, PagePart.ofRow_ofPage, PageRow.column, leftAlone, if_true,
    if_neg (loosely firstMember member firstLeft)] at sameLeft
  simp only [PagePart.ofRow_update, PagePart.ofRow_ofPage, PageRow.column,
    if_neg (loosely lastMember member lastWritten)] at sameWritten
  rcases List.mem_pair.mp saved with rfl | rfl
  · exfalso
    apply firstLeft
    apply Value.sameUnder_trans scalars (wellKeyed_partOf wellKeyed firstMember left) sameLeft
    exact blendless.same_of_looselySame wellKeyed storable finer lastMember member leftAlone
  · exact sameWritten

theorem Blendless.allOrNothing (blendless : Blendless asNumber slug pages) :
    AllOrNothing asNumber pages := by
  have scalars : Value.ScalarsOnly asNumber := finer.scalarsOnly Value.scalarsOnly_quantity?
  have keyed {page : Value} (member : page ∈ pages) (part : PagePart) :=
    wellKeyed_partOf wellKeyed member part
  intro one oneMember other otherMember part varies alike
  have same := blendless.same_of_looselySame wellKeyed storable finer oneMember otherMember alike
  have sameBack := Value.sameUnder_symm scalars (keyed oneMember part) (keyed otherMember part) same
  rw [same_parts_iff wellKeyed storable oneMember otherMember]
  intro second
  by_contra differ
  -- some page differs from both in the part in which they are alike
  obtain ⟨third, thirdMember, apart⟩ : ∃ third ∈ pages,
      ¬ Value.sameUnder asNumber (part.ofPage third) (part.ofPage one) = true := by
    by_contra none
    push Not at none
    obtain ⟨left, leftMember, right, rightMember, unlike⟩ := varies
    have linked : Value.sameUnder asNumber (part.ofPage left) (part.ofPage right) = true := by
      apply Value.sameUnder_trans scalars (keyed leftMember part) (none left leftMember)
      exact Value.sameUnder_symm scalars (keyed rightMember part) (keyed oneMember part)
        (none right rightMember)
    simp [linked] at unlike
  have differBack : ¬ Value.sameUnder asNumber (second.ofPage other) (second.ofPage one) = true :=
    fun back => differ (Value.sameUnder_symm scalars (keyed otherMember second)
      (keyed oneMember second) back)
  have alikeBack : (part.ofPage other).looselySame (part.ofPage one) = true :=
    Value.sameUnder_symm Value.scalarsOnly_quantity? (keyed oneMember part)
      (keyed otherMember part) alike
  have apartToo : ¬ Value.sameUnder asNumber (part.ofPage third) (part.ofPage other) = true :=
    fun link => apart (Value.sameUnder_trans scalars (keyed thirdMember part) link sameBack)
  have withOther := blendless.not_overlapping wellKeyed storable finer oneMember otherMember
    thirdMember alikeBack apart differBack
  have withOne := blendless.not_overlapping wellKeyed storable finer otherMember oneMember
    thirdMember alike apartToo differ
  apply differ
  apply Value.sameUnder_trans scalars (keyed oneMember second) withOne
  exact Value.sameUnder_symm scalars (keyed otherMember second) (keyed thirdMember second) withOther

end

namespace Traffic

/-- However the steps of saves come, what is found in the end is a page of which each part was
stored before or saved, and counts as the same as that of a page that was saved.  It is always one
of the pages that were saved if and only if the pages differ all or nothing. -/
theorem blendless_iff {asNumber : Value → Option Number}
    (finer : Value.Finer asNumber Value.quantity?) (slug : String) (pages : List Value)
    (storable : ∀ page ∈ pages, Page.Storable slug page)
    (wellKeyed : ∀ page ∈ pages, page.WellKeyed) :
    (∀ table after : PageTable, ∀ stored ∈ pages, ∀ saves ⊆ pages, saves ≠ [] →
      table.select slug = some (.ofPage slug stored) → Completes slug table saves after →
        ∃ found, after.find (.str slug) = .ok found ∧ ∀ part : PagePart,
          (∃ page ∈ stored :: saves, part.ofPage found = part.ofPage page) ∧
            ∃ page ∈ saves, (part.ofPage found).looselySame (part.ofPage page) = true) ∧
      (Blendless asNumber slug pages ↔ AllOrNothing asNumber pages) := by
  constructor
  · intro table after stored member saves members nonempty holds completes
    have among : stored :: saves ⊆ pages := List.cons_subset.mpr ⟨member, members⟩
    have lasts (part : PagePart) := completes.lasts
      (lasting_part (fun page given => wellKeyed page (among given)) part) List.mem_cons_self
      (List.subset_cons_self stored saves) nonempty holds
    obtain ⟨row, found, made, -⟩ := lasts .version
    refine ⟨row.toPage, PageTable.find_of_select_some found fun part =>
      made.grammar (fun page given => storable page (among given)) part, fun part => ?_⟩
    rw [PagePart.ofPage_toPage]
    refine ⟨made part, ?_⟩
    obtain ⟨row', found', -, page, saved, alike⟩ := lasts part
    obtain rfl : row = row' := Option.some.inj (found.symm.trans found')
    exact ⟨page, saved, alike⟩
  · constructor
    · intro blendless
      exact blendless.allOrNothing wellKeyed storable finer
    · exact blendless_of_allOrNothing wellKeyed storable finer

def recounts : List Value :=
  [Page.counting "1.0.0" (.int 1), Page.counting "2.0.0" (.int 2)]

theorem allOrNothing_recounts : AllOrNothing (fun _ => none) recounts := by
  intro one oneMember other otherMember part varies alike
  cases part with
  | info =>
      exfalso
      obtain ⟨left, leftMember, right, rightMember, differ⟩ := varies
      revert differ
      rcases List.mem_pair.mp leftMember with rfl | rfl <;>
        rcases List.mem_pair.mp rightMember with rfl | rfl <;> decide +kernel
  | _ =>
      revert alike
      rcases List.mem_pair.mp oneMember with rfl | rfl <;>
        rcases List.mem_pair.mp otherMember with rfl | rfl <;> decide +kernel

theorem blendless_iff_recounts :
    Value.Finer (fun _ => none) Value.quantity? ∧
      (∀ page ∈ recounts, Page.Storable "about" page) ∧ (∀ page ∈ recounts, page.WellKeyed) ∧
      Blendless (fun _ => none) "about" recounts := by
  have storable : ∀ page ∈ recounts, Page.Storable "about" page := by decide +kernel
  have wellKeyed : ∀ page ∈ recounts, page.WellKeyed := by
    intro page member
    rcases List.mem_pair.mp member with rfl | rfl <;> exact Page.wellKeyed_counting rfl
  refine ⟨Value.finer_none, storable, wellKeyed, ?_⟩
  exact (blendless_iff Value.finer_none "about" recounts storable wellKeyed).2.mpr
    allOrNothing_recounts

/-- Of two saves that overlap, one brings the version and the other the count. -/
theorem overlapping_blended :
    (PageTable.single "about" (Page.counting "1.0.0" (.int 1))).save
        (Page.counting "2.0.0" (.bool true)) =
      .ok (PageTable.single "about" (Page.counting "2.0.0" (.int 1))) ∧
    ∃ after, Completes "about" (.single "about" (Page.counting "1.0.0" (.int 1)))
        [Page.counting "1.0.0" (.int 2), Page.counting "2.0.0" (.int 1)] after ∧
      after.find (.str "about") = .ok (Page.counting "2.0.0" (.int 2)) ∧
      (Page.counting "2.0.0" (.int 2)).looselySame (Page.counting "1.0.0" (.int 2)) = false ∧
      (Page.counting "2.0.0" (.int 2)).looselySame (Page.counting "2.0.0" (.int 1)) = false := by
  refine ⟨by decide +kernel, ?_⟩
  obtain ⟨after, completes, found⟩ := completes_overlapping "about"
    (Page.counting "1.0.0" (.int 1)) (Page.counting "1.0.0" (.int 2))
    (Page.counting "2.0.0" (.int 1))
  refine ⟨after, completes, ?_, by decide +kernel, by decide +kernel⟩
  have row : PageRow.update (.ofPage "about" (Page.counting "1.0.0" (.int 1)))
      (.ofPage "about" (Page.counting "1.0.0" (.int 2)))
      (.update (.ofPage "about" (Page.counting "1.0.0" (.int 1)))
        (.ofPage "about" (Page.counting "2.0.0" (.int 1)))
        (.ofPage "about" (Page.counting "1.0.0" (.int 1)))) =
      .ofPage "about" (Page.counting "2.0.0" (.int 2)) := by decide +kernel
  have storable : Page.Storable "about" (Page.counting "2.0.0" (.int 2)) := by decide +kernel
  rw [row] at found
  apply PageTable.find_of_select_some found
  intro part
  rw [PagePart.ofRow_ofPage]
  exact storable.grammar.part part

end Traffic

end PageComposer
