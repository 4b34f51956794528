import Mathlib.Data.List.Forall2
import Mathlib.Data.List.Perm.Subperm
import PageComposer.Proofs.Json.Keys
import PageComposer.Value.Equality

/-!
# Values that hold the same data

`Value.sameUnder` compares values without regard to the order of keys.  Among values whose
objects have each key once it is an equivalence, whatever counts as a number, as long as no
list and no object does.  Where nothing counts as a number, integers, doubles and truth
values stay apart: `Value.exactlySame` is equality but for the order of keys.
-/

namespace PageComposer

theorem Number.same_iff {left right : Number} :
    left.same right = true ↔ ∃ place, left.place? = some place ∧ right.place? = some place := by
  unfold same
  cases left.place? with
  | none => simp
  | some place =>
      cases right.place? with
      | none => simp
      | some other =>
          simp only [beq_iff_eq, Option.some.injEq, exists_eq_left']
          exact eq_comm

namespace Value

/-- A value all of whose objects have each key once. -/
inductive WellKeyed : Value → Prop where
  | scalar {value : Value} (plain : value.canBeKey = true) : WellKeyed value
  | list {items : List Value} (members : ∀ item ∈ items, WellKeyed item) :
      WellKeyed (.list items)
  | object {fields : Fields} (distinct : (Fields.keys fields).Nodup)
      (members : ∀ entry ∈ fields, WellKeyed entry.2) : WellKeyed (.object fields)

theorem wellKeyed_list_iff {items : List Value} :
    WellKeyed (.list items) ↔ ∀ item ∈ items, WellKeyed item := by
  constructor
  · intro wellKeyed
    cases wellKeyed with
    | scalar plain => simp [canBeKey] at plain
    | list members => exact members
  · exact .list

theorem wellKeyed_object_iff {fields : Fields} :
    WellKeyed (.object fields) ↔
      (Fields.keys fields).Nodup ∧ ∀ entry ∈ fields, WellKeyed entry.2 := by
  constructor
  · intro wellKeyed
    cases wellKeyed with
    | scalar plain => simp [canBeKey] at plain
    | object distinct members => exact ⟨distinct, members⟩
  · rintro ⟨distinct, members⟩
    exact .object distinct members

theorem WellKeyed.of_mem_childNodes {tree child : Value} (keyed : tree.WellKeyed)
    (member : child ∈ tree.childNodes) : child.WellKeyed := by
  cases tree with
  | object fields =>
      simp only [childNodes] at member
      split at member
      · rename_i items found
        have entries := (wellKeyed_object_iff.mp keyed).2
        exact wellKeyed_list_iff.mp (entries _ (Fields.mem_of_get? found)) child member
      · simp at member
  | _ => simp [childNodes] at member

/-- The same data, integers, doubles and truth values apart. -/
def exactlySame : Value → Value → Bool := sameUnder fun _ => none

/-- Neither lists nor objects count as numbers. -/
def ScalarsOnly (asNumber : Value → Option Number) : Prop :=
  ∀ value, value.canBeKey = false → asNumber value = none

theorem scalarsOnly_none : ScalarsOnly fun _ => none := fun _ _ => rfl

theorem scalarsOnly_quantity? : ScalarsOnly quantity? := by
  intro value container
  cases value with
  | list items => rfl
  | object fields => rfl
  | _ => simp [canBeKey] at container

variable {asNumber : Value → Option Number} {left middle right : Value}

/-! ### One step of the comparison -/

theorem sameScalar_iff :
    sameScalar asNumber left right = true ↔
      left = right ∨ ∃ first second, asNumber left = some first ∧
        asNumber right = some second ∧ first.same second = true := by
  unfold sameScalar
  cases asNumber left with
  | none => simp
  | some first =>
      cases asNumber right with
      | none => simp
      | some second => simp

theorem sameScalar_symm (same : sameScalar asNumber left right = true) :
    sameScalar asNumber right left = true := by
  rw [sameScalar_iff] at same ⊢
  rcases same with rfl | ⟨first, second, counts, countsToo, same⟩
  · exact .inl rfl
  · obtain ⟨place, here, there⟩ := Number.same_iff.mp same
    exact .inr ⟨second, first, countsToo, counts, Number.same_iff.mpr ⟨place, there, here⟩⟩

theorem sameScalar_trans (same : sameScalar asNumber left middle = true)
    (sameToo : sameScalar asNumber middle right = true) :
    sameScalar asNumber left right = true := by
  rw [sameScalar_iff] at same sameToo ⊢
  rcases same with rfl | ⟨first, between, counts, countsBetween, same⟩
  · exact sameToo
  rcases sameToo with rfl | ⟨between', second, countsBetween', counts', same'⟩
  · exact .inr ⟨first, between, counts, countsBetween, same⟩
  · obtain rfl : between = between' := Option.some.inj (countsBetween.symm.trans countsBetween')
    obtain ⟨place, here, there⟩ := Number.same_iff.mp same
    obtain ⟨place', here', there'⟩ := Number.same_iff.mp same'
    obtain rfl : place = place' := Option.some.inj (there.symm.trans here')
    exact .inr ⟨first, second, counts, counts', Number.same_iff.mpr ⟨place, here, there'⟩⟩

theorem sameUnder_list_iff {lefts rights : List Value} :
    sameUnder asNumber (.list lefts) (.list rights) = true ↔
      List.Forall₂ (fun left right => sameUnder asNumber left right = true) lefts rights := by
  rw [sameUnder]
  induction lefts generalizing rights with
  | nil => cases rights <;> simp [sameItemsUnder]
  | cons left lefts induction => cases rights <;> simp [sameItemsUnder, induction]

theorem sameFieldsUnder_iff {lefts rights : Fields} :
    sameFieldsUnder asNumber lefts rights = true ↔
      ∀ entry ∈ lefts, ∃ right, Fields.get? rights entry.1 = some right ∧
        sameUnder asNumber entry.2 right = true := by
  induction lefts with
  | nil => simp [sameFieldsUnder]
  | cons entry lefts induction =>
      obtain ⟨key, left⟩ := entry
      rw [sameFieldsUnder, Bool.and_eq_true, induction, List.forall_mem_cons]
      cases Fields.get? rights key <;> simp

theorem sameUnder_of_plain (plain : left.canBeKey = true) :
    sameUnder asNumber left right = sameScalar asNumber left right := by
  cases left with
  | list items => simp [canBeKey] at plain
  | object fields => simp [canBeKey] at plain
  | _ => cases right <;> simp [sameUnder]

theorem sameScalar_of_container (scalars : ScalarsOnly asNumber) (different : left ≠ right)
    (container : left.canBeKey = false ∨ right.canBeKey = false) :
    sameScalar asNumber left right = false := by
  rw [← Bool.not_eq_true, sameScalar_iff]
  rintro (alike | ⟨first, second, counts, countsToo, -⟩)
  · exact different alike
  · rcases container with here | there
    · simp [scalars left here] at counts
    · simp [scalars right there] at countsToo

/-- Only a value that is no list and no object is the same as one that is neither. -/
theorem plain_of_sameUnder (scalars : ScalarsOnly asNumber) (plain : left.canBeKey = true)
    (same : sameUnder asNumber left right = true) :
    right.canBeKey = true ∧ sameScalar asNumber left right = true := by
  rw [sameUnder_of_plain plain] at same
  refine ⟨?_, same⟩
  cases there : right.canBeKey with
  | true => rfl
  | false =>
      have different : left ≠ right := by
        rintro rfl
        simp [plain] at there
      simp [sameScalar_of_container scalars different (.inr there)] at same

theorem list_of_sameUnder (scalars : ScalarsOnly asNumber) {lefts : List Value}
    (same : sameUnder asNumber (.list lefts) right = true) :
    ∃ rights, right = .list rights ∧
      List.Forall₂ (fun left right => sameUnder asNumber left right = true) lefts rights := by
  have apart := @sameScalar_of_container asNumber (.list lefts) right scalars
  cases right with
  | list rights => exact ⟨rights, rfl, sameUnder_list_iff.mp same⟩
  | _ => simp [sameUnder, apart, canBeKey] at same

theorem object_of_sameUnder (scalars : ScalarsOnly asNumber) {lefts : Fields}
    (same : sameUnder asNumber (.object lefts) right = true) :
    ∃ rights, right = .object rights ∧ lefts.length = rights.length ∧
      ∀ entry ∈ lefts, ∃ right, Fields.get? rights entry.1 = some right ∧
        sameUnder asNumber entry.2 right = true := by
  have apart := @sameScalar_of_container asNumber (.object lefts) right scalars
  cases right with
  | object rights =>
      rw [sameUnder, Bool.and_eq_true, beq_iff_eq, sameFieldsUnder_iff] at same
      exact ⟨rights, rfl, same⟩
  | _ => simp [sameUnder, apart, canBeKey] at same

/-- Objects are the same when they have the same under every key. -/
theorem sameUnder_object_iff {lefts rights : Fields} (distinct : (Fields.keys lefts).Nodup)
    (distinctToo : (Fields.keys rights).Nodup) :
    sameUnder asNumber (.object lefts) (.object rights) = true ↔
      ∀ key, Option.Rel (fun left right => sameUnder asNumber left right = true)
        (Fields.get? lefts key) (Fields.get? rights key) := by
  rw [sameUnder, Bool.and_eq_true, beq_iff_eq, sameFieldsUnder_iff]
  constructor
  · rintro ⟨length, partners⟩ key
    have among : Fields.keys lefts ⊆ Fields.keys rights := by
      intro name member
      obtain ⟨entry, inside, rfl⟩ := List.mem_map.mp member
      obtain ⟨right, found, -⟩ := partners entry inside
      exact List.mem_map.mpr ⟨(entry.1, right), Fields.mem_of_get? found, rfl⟩
    cases found : Fields.get? lefts key with
    | some left =>
        obtain ⟨right, foundToo, same⟩ := partners (key, left) (Fields.mem_of_get? found)
        rw [foundToo]
        exact .some same
    | none =>
        have permutation : (Fields.keys lefts).Perm (Fields.keys rights) := by
          apply (List.subperm_of_subset distinct among).perm_of_length_le
          simp [Fields.keys, length]
        have missing : key ∉ Fields.keys rights := by
          rw [← permutation.mem_iff]
          exact Fields.get?_eq_none_iff.mp found
        rw [Fields.get?_eq_none_iff.mpr missing]
        exact .none
  · intro entries
    have keys (key : String) : key ∈ Fields.keys lefts ↔ key ∈ Fields.keys rights := by
      have related := entries key
      rw [← not_iff_not, ← Fields.get?_eq_none_iff, ← Fields.get?_eq_none_iff]
      cases here : Fields.get? lefts key <;> cases there : Fields.get? rights key <;>
        simp_all
    constructor
    · have permutation : (Fields.keys lefts).Perm (Fields.keys rights) :=
        (List.perm_ext_iff_of_nodup distinct distinctToo).mpr keys
      simpa [Fields.keys] using permutation.length_eq
    · rintro ⟨key, left⟩ member
      have related := entries key
      rw [(Fields.get?_eq_some_iff distinct).mpr member] at related
      cases there : Fields.get? rights key with
      | none => simp [there] at related
      | some right =>
          rw [there] at related
          cases related with
          | some same => exact ⟨right, rfl, same⟩

/-! ### An equivalence -/

theorem sameUnder_refl (wellKeyed : left.WellKeyed) : sameUnder asNumber left left = true := by
  induction wellKeyed with
  | scalar plain => rw [sameUnder_of_plain plain, sameScalar_iff]; exact .inl rfl
  | list _ induction =>
      rw [sameUnder_list_iff, List.forall₂_same]
      exact induction
  | @object fields distinct _ induction =>
      rw [sameUnder_object_iff distinct distinct]
      intro key
      cases found : Fields.get? fields key with
      | none => exact .none
      | some value => exact .some (induction _ (Fields.mem_of_get? found))

theorem sameUnder_symm (scalars : ScalarsOnly asNumber) (wellKeyed : left.WellKeyed)
    (wellKeyedToo : right.WellKeyed) (same : sameUnder asNumber left right = true) :
    sameUnder asNumber right left = true := by
  induction wellKeyed generalizing right with
  | scalar plain =>
      obtain ⟨plainToo, same⟩ := plain_of_sameUnder scalars plain same
      rw [sameUnder_of_plain plainToo]
      exact sameScalar_symm same
  | @list lefts _ induction =>
      obtain ⟨rights, rfl, each⟩ := list_of_sameUnder scalars same
      have members := wellKeyed_list_iff.mp wellKeyedToo
      rw [sameUnder_list_iff, List.forall₂_iff_get]
      obtain ⟨length, each⟩ := List.forall₂_iff_get.mp each
      refine ⟨length.symm, fun index inRights inLefts => ?_⟩
      apply induction _ (List.get_mem _ _) (members _ (List.get_mem _ _))
      exact each index inLefts inRights
  | @object lefts distinct members induction =>
      obtain ⟨rights, rfl, -⟩ := object_of_sameUnder scalars same
      obtain ⟨distinctToo, membersToo⟩ := wellKeyed_object_iff.mp wellKeyedToo
      rw [sameUnder_object_iff distinct distinctToo] at same
      rw [sameUnder_object_iff distinctToo distinct]
      intro key
      have related := same key
      cases here : Fields.get? lefts key with
      | none =>
          cases there : Fields.get? rights key with
          | none => exact .none
          | some right => simp [here, there] at related
      | some left =>
          cases there : Fields.get? rights key with
          | none => simp [here, there] at related
          | some right =>
              simp only [here, there, Option.rel_some_some] at related
              apply Option.Rel.some
              apply induction _ (Fields.mem_of_get? here) _ related
              exact membersToo _ (Fields.mem_of_get? there)

theorem sameUnder_trans (scalars : ScalarsOnly asNumber) (wellKeyed : left.WellKeyed)
    (same : sameUnder asNumber left middle = true)
    (sameToo : sameUnder asNumber middle right = true) :
    sameUnder asNumber left right = true := by
  -- partners are looked up from left to right, so only the keys on the left have to be distinct
  induction wellKeyed generalizing middle right with
  | scalar plain =>
      obtain ⟨plainToo, same⟩ := plain_of_sameUnder scalars plain same
      rw [sameUnder_of_plain plainToo] at sameToo
      rw [sameUnder_of_plain plain]
      exact sameScalar_trans same sameToo
  | list _ induction =>
      obtain ⟨middles, rfl, each⟩ := list_of_sameUnder scalars same
      obtain ⟨rights, rfl, eachToo⟩ := list_of_sameUnder scalars sameToo
      rw [sameUnder_list_iff, List.forall₂_iff_get]
      obtain ⟨length, each⟩ := List.forall₂_iff_get.mp each
      obtain ⟨lengthToo, eachToo⟩ := List.forall₂_iff_get.mp eachToo
      refine ⟨length.trans lengthToo, fun index inLefts inRights => ?_⟩
      have inMiddles : index < middles.length := length ▸ inLefts
      apply induction _ (List.get_mem _ _) (each index inLefts inMiddles)
      exact eachToo index inMiddles inRights
  | object _ _ induction =>
      obtain ⟨middles, rfl, length, partners⟩ := object_of_sameUnder scalars same
      obtain ⟨rights, rfl, lengthToo, partnersToo⟩ := object_of_sameUnder scalars sameToo
      rw [sameUnder, Bool.and_eq_true, beq_iff_eq, sameFieldsUnder_iff]
      refine ⟨length.trans lengthToo, fun entry member => ?_⟩
      obtain ⟨between, found, same⟩ := partners entry member
      obtain ⟨right, foundToo, sameToo⟩ :=
        partnersToo (entry.1, between) (Fields.mem_of_get? found)
      exact ⟨right, foundToo, induction entry member same sameToo⟩

/-! ### Finer and coarser comparisons -/

/-- What counts as a number under one comparison counts as the same number under another. -/
def Finer (asNumber counting : Value → Option Number) : Prop :=
  ∀ value number, asNumber value = some number → counting value = some number

theorem finer_none {counting : Value → Option Number} : Finer (fun _ => none) counting := by
  intro value number counts
  cases counts

theorem Finer.scalarsOnly {counting : Value → Option Number} (finer : Finer asNumber counting)
    (scalars : ScalarsOnly counting) : ScalarsOnly asNumber := by
  intro value container
  cases counts : asNumber value with
  | none => rfl
  | some number =>
      have absent := scalars value container
      rw [finer value number counts] at absent
      cases absent

theorem sameScalar_mono {counting : Value → Option Number} (finer : Finer asNumber counting)
    (same : sameScalar asNumber left right = true) : sameScalar counting left right = true := by
  rw [sameScalar_iff] at same ⊢
  rcases same with alike | ⟨first, second, counts, countsToo, same⟩
  · exact .inl alike
  · exact .inr ⟨first, second, finer _ _ counts, finer _ _ countsToo, same⟩

/-- The more counts as a number, the more is the same. -/
theorem sameUnder_mono {counting : Value → Option Number} (finer : Finer asNumber counting)
    (scalars : ScalarsOnly counting) (wellKeyed : left.WellKeyed)
    (same : sameUnder asNumber left right = true) : sameUnder counting left right = true := by
  have fewer : ScalarsOnly asNumber := finer.scalarsOnly scalars
  induction wellKeyed generalizing right with
  | scalar plain =>
      rw [sameUnder_of_plain plain] at same ⊢
      exact sameScalar_mono finer same
  | list _ induction =>
      obtain ⟨rights, rfl, each⟩ := list_of_sameUnder fewer same
      rw [sameUnder_list_iff, List.forall₂_iff_get]
      obtain ⟨length, each⟩ := List.forall₂_iff_get.mp each
      refine ⟨length, fun index inLefts inRights => ?_⟩
      exact induction _ (List.get_mem _ _) (each index inLefts inRights)
  | object _ _ induction =>
      obtain ⟨rights, rfl, length, partners⟩ := object_of_sameUnder fewer same
      rw [sameUnder, Bool.and_eq_true, beq_iff_eq, sameFieldsUnder_iff]
      refine ⟨length, fun entry member => ?_⟩
      obtain ⟨right, found, same⟩ := partners entry member
      exact ⟨right, found, induction entry member same⟩

end Value

end PageComposer
