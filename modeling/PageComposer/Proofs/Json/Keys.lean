import PageComposer.Json.Reader
import PageComposer.Proofs.Tree

/-!
# Keys of what is read

Of several entries with one key the reader keeps the last one, in the place of the first.  So
the keys of an object that has been read are all different, and what stands under a key is what
the object has among its entries.
-/

namespace PageComposer

namespace Fields

theorem nodup_keys_insert {fields : Fields} (distinct : (keys fields).Nodup) (key : String)
    (value : Value) : (keys (insert fields key value)).Nodup := by
  induction fields with
  | nil => simp [insert, keys]
  | cons entry rest induction =>
      obtain ⟨name, old⟩ := entry
      simp only [keys, List.map_cons, List.nodup_cons] at distinct induction ⊢
      obtain ⟨fresh, others⟩ := distinct
      by_cases same : name = key
      · rw [insert, if_pos same, List.map_cons, List.nodup_cons]
        exact ⟨fresh, others⟩
      · simp only [insert, if_neg same, List.map_cons, List.nodup_cons]
        refine ⟨?_, induction others⟩
        intro among
        rcases mem_keys_insert.mp among with rfl | member
        · exact same rfl
        · exact fresh member

theorem get?_eq_some_iff {fields : Fields} (distinct : (keys fields).Nodup) {key : String}
    {value : Value} : get? fields key = some value ↔ (key, value) ∈ fields := by
  refine ⟨mem_of_get?, ?_⟩
  intro member
  induction fields with
  | nil => simp at member
  | cons entry rest induction =>
      obtain ⟨name, first⟩ := entry
      simp only [keys, List.map_cons, List.nodup_cons] at distinct induction
      rcases List.mem_cons.mp member with same | later
      · obtain ⟨rfl, rfl⟩ := Prod.mk.inj same
        simp [get?]
      · have other : name ≠ key := by
          rintro rfl
          exact distinct.1 (List.mem_map_of_mem later)
        rw [get?, if_neg other]
        exact induction distinct.2 later

end Fields

namespace Json

variable {limits : Limits} {standIns : Text.StandIns} {chars : List Char} {offset : Nat}

theorem exists_of_map_ok {Result Next : Type} {outcome : Except ReadError Result}
    {next : Result → Next} {last : Next} (mapped : outcome.map next = .ok last) :
    ∃ result, outcome = .ok result ∧ next result = last := by
  cases outcome with
  | error error => simp [Except.map] at mapped
  | ok result => exact ⟨result, rfl, Except.ok.inj mapped⟩

theorem nodup_keys_fieldsFrom {steps : Nat} {read : Fields} {found : Found Fields}
    (distinct : (Fields.keys read).Nodup)
    (readOn : fieldsFrom limits standIns steps read offset chars = .ok found) :
    (Fields.keys found.result).Nodup := by
  induction steps generalizing read offset chars with
  | zero => simp [fieldsFrom] at readOn
  | succ steps induction =>
      unfold fieldsFrom at readOn
      split at readOn
      · rename_i onward rest alike
        obtain rfl : steps = onward := Nat.succ.inj alike
        simp only [bind, Except.bind] at readOn
        split at readOn
        · simp at readOn
        · rename_i key keyRead
          split at readOn
          · split at readOn
            · simp at readOn
            · rename_i value valueRead
              have more := Fields.nodup_keys_insert distinct (String.ofList key.result) value.result
              split at readOn
              · obtain rfl := Except.ok.inj readOn
                exact more
              · exact induction more readOn
              · simp [throw, throwThe, MonadExceptOf.throw] at readOn
          · simp [throw, throwThe, MonadExceptOf.throw] at readOn
      · simp at readOn

theorem numberFrom_ne_object {found : Found Value} {fields : Fields}
    (readOn : numberFrom limits offset chars = .ok found) : found.result ≠ .object fields := by
  unfold numberFrom at readOn
  simp only [bind, Except.bind, pure, Except.pure] at readOn
  split at readOn
  · simp [throw, throwThe, MonadExceptOf.throw] at readOn
  · split at readOn
    · obtain rfl := Except.ok.inj readOn
      simp
    · split at readOn
      · simp only [Option.isNone_none, Option.isNone_some, Bool.and_false, Bool.false_eq_true,
          if_false] at readOn
        obtain rfl := Except.ok.inj readOn
        simp
      · simp only [Option.isNone_none, Bool.and_self, if_true] at readOn
        split at readOn
        · simp at readOn
        · rename_i value written
          obtain rfl := Except.ok.inj readOn
          unfold integerOf at written
          split at written
          · simp at written
          · simp [← Except.ok.inj written]

theorem scalarFrom_ne_object {found : Found Value} {fields : Fields}
    (readOn : scalarFrom limits offset chars = .ok found) : found.result ≠ .object fields := by
  unfold scalarFrom at readOn
  split at readOn
  · rename_i word value named
    have among := List.mem_of_find?_eq_some named
    obtain rfl := Except.ok.inj readOn
    intro same
    obtain rfl : value = .object fields := same
    simp [words] at among
  · exact numberFrom_ne_object readOn

theorem nodup_keys_valueFrom {steps : Nat} {found : Found Value} {fields : Fields}
    (readOn : valueFrom limits standIns steps offset chars = .ok found)
    (same : found.result = .object fields) : (Fields.keys fields).Nodup := by
  unfold valueFrom at readOn
  split at readOn
  · simp at readOn
  · simp at readOn
  · obtain ⟨text, -, rfl⟩ := exists_of_map_ok readOn
    simp at same
  · split at readOn
    · simp at readOn
    · split at readOn
      · obtain rfl := Except.ok.inj readOn
        simp at same
      · obtain ⟨items, -, rfl⟩ := exists_of_map_ok readOn
        simp at same
  · split at readOn
    · simp at readOn
    · split at readOn
      · obtain rfl := Except.ok.inj readOn
        obtain rfl := Value.object.inj same
        exact List.nodup_nil
      · obtain ⟨entries, entriesRead, rfl⟩ := exists_of_map_ok readOn
        obtain rfl := Value.object.inj same
        exact nodup_keys_fieldsFrom (by simp [Fields.keys]) entriesRead
  · exact absurd same (scalarFrom_ne_object readOn)

/-- The keys of an object that has been read are all different. -/
theorem nodup_keys_readWithin {text : String} {fields : Fields}
    (readAll : readWithin limits text = .ok (.object fields)) : (Fields.keys fields).Nodup := by
  unfold readWithin readChars at readAll
  split at readAll
  · simp at readAll
  · simp only [bind, Except.bind] at readAll
    split at readAll
    · simp at readAll
    · rename_i found readOn
      split at readAll
      · exact nodup_keys_valueFrom readOn (Except.ok.inj readAll)
      · simp [throw, throwThe, MonadExceptOf.throw] at readAll

end Json

end PageComposer
