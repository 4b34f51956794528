import Mathlib.Tactic.Push
import PageComposer.Proofs.Json.Keys
import PageComposer.Proofs.Registry.Bystanders
import PageComposer.Repository.ActivationFile

/-!
# The allowlist of a configuration file

What a registry allows once it has loaded its allowlist from a configuration file is what the
file says: the ids whose entries are enabled, and no others.  A file that says nothing of the
kind is refused, and the allowlist stays what it was.  There is one exception, a file that holds
`null`: it counts as no file and lifts every restriction.
-/

namespace PageComposer

namespace ActivationFile

/-! ### What a file says -/

/-- An entry leaves its plugin active. -/
inductive Enabled : Value → Prop where
  | flag : Enabled (.bool true)
  | nothing {entry : Value} (noFlag : ∀ flag, entry ≠ .bool flag)
      (empty : entry.truthy = false) : Enabled entry
  | switch {fields : Fields} (on : ∀ value, Fields.get? fields "enabled" = some value →
      value.truthy = true) : Enabled (.object fields)

/-- An entry says whether its plugin is active. -/
def Telling (entry : Value) : Prop :=
  (∃ flag, entry = .bool flag) ∨ (∃ fields, entry = .object fields) ∨ entry.truthy = false

theorem isEnabled_of_other {entry : Value} (noFlag : ∀ flag, entry ≠ .bool flag)
    (noFields : ∀ fields, entry ≠ .object fields) :
    isEnabled entry = if entry.truthy then .error .notAnObject else .ok true := by
  cases entry with
  | bool flag => exact absurd rfl (noFlag flag)
  | object fields => exact absurd rfl (noFields fields)
  | _ => rfl

theorem isEnabled_cases (entry : Value) :
    (Telling entry ∧ ∃ flag, isEnabled entry = .ok flag ∧ (flag = true ↔ Enabled entry)) ∨
      ¬ Telling entry ∧ isEnabled entry = .error .notAnObject := by
  by_cases flagged : ∃ flag, entry = .bool flag
  · obtain ⟨flag, rfl⟩ := flagged
    refine .inl ⟨.inl ⟨flag, rfl⟩, flag, rfl, ?_⟩
    constructor
    · rintro rfl
      exact .flag
    · intro enabled
      cases enabled with
      | flag => rfl
      | nothing noFlag => exact absurd rfl (noFlag flag)
  · have noFlag : ∀ flag, entry ≠ .bool flag := fun flag same => flagged ⟨flag, same⟩
    by_cases shaped : ∃ fields, entry = .object fields
    · obtain ⟨fields, rfl⟩ := shaped
      refine .inl ⟨.inr (.inl ⟨fields, rfl⟩), _, rfl, ?_⟩
      constructor
      · intro on
        refine .switch fun value found => ?_
        rwa [found] at on
      · intro enabled
        cases enabled with
        | nothing noFlag empty =>
            obtain rfl : fields = [] := by simpa [Value.truthy] using empty
            rfl
        | switch on =>
            cases found : Fields.get? fields "enabled" with
            | none => rfl
            | some value => exact on value found
    · have noFields : ∀ fields, entry ≠ .object fields := fun fields same => shaped ⟨fields, same⟩
      rw [isEnabled_of_other noFlag noFields]
      cases empty : entry.truthy with
      | false =>
          refine .inl ⟨.inr (.inr empty), true, rfl, ?_⟩
          simp [Enabled.nothing noFlag empty]
      | true => exact .inr ⟨by simp [Telling, flagged, shaped, empty], rfl⟩

theorem enabledIds_cases (fields : Fields) :
    ((∀ entry ∈ fields, Telling entry.2) ∧ ∃ ids, enabledIds fields = .ok ids ∧
        ∀ id, id ∈ ids ↔ ∃ entry, (id, entry) ∈ fields ∧ Enabled entry) ∨
      (∃ entry ∈ fields, ¬ Telling entry.2) ∧ enabledIds fields = .error .notAnObject := by
  induction fields with
  | nil => exact .inl ⟨by simp, [], rfl, by simp⟩
  | cons entry rest induction =>
      obtain ⟨name, first⟩ := entry
      rcases isEnabled_cases first with ⟨telling, flag, said, enabled⟩ | ⟨silent, failed⟩
      · rcases induction with ⟨others, ids, listed, among⟩ | ⟨⟨entry, member, silent⟩, failed⟩
        · left
          refine ⟨List.forall_mem_cons.mpr ⟨telling, others⟩,
            (if flag then name :: ids else ids), ?_, ?_⟩
          · simp only [enabledIds, said, listed, bind, Except.bind, pure, Except.pure]
          · intro id
            have kept : id ∈ (if flag then name :: ids else ids) ↔
                flag = true ∧ id = name ∨ id ∈ ids := by
              cases flag <;> simp
            calc id ∈ (if flag then name :: ids else ids)
                ↔ Enabled first ∧ id = name ∨ ∃ entry, (id, entry) ∈ rest ∧ Enabled entry := by
                  rw [kept, enabled, among]
              _ ↔ ∃ entry, (id, entry) ∈ (name, first) :: rest ∧ Enabled entry := by
                  simp only [List.mem_cons, Prod.mk.injEq, or_and_right, exists_or, and_assoc,
                    exists_and_left, exists_eq_left, and_comm]
        · right
          refine ⟨⟨entry, List.mem_cons_of_mem _ member, silent⟩, ?_⟩
          simp [enabledIds, said, failed, bind, Except.bind]
      · right
        refine ⟨⟨(name, first), by simp, silent⟩, ?_⟩
        simp [enabledIds, failed, bind, Except.bind]

/-- The file is there, and what can be read from it is this value. -/
def Holds (limits : Json.Limits) (file : ActivationFile) (config : Value) : Prop :=
  ∃ text, file.content = some text ∧ Json.readWithin limits text = .ok config

section

variable {limits : Json.Limits} {file : ActivationFile}

theorem Holds.unique {first second : Value} (holds : Holds limits file first)
    (holdsToo : Holds limits file second) : first = second := by
  obtain ⟨text, written, read⟩ := holds
  obtain ⟨other, writtenToo, readToo⟩ := holdsToo
  obtain rfl : text = other := Option.some.inj (written.symm.trans writtenToo)
  exact Except.ok.inj (read.symm.trans readToo)

theorem Holds.nothingElse {first second : Value} (holds : Holds limits file first)
    (other : first ≠ second) : ¬ Holds limits file second :=
  fun holdsToo => other (holds.unique holdsToo)

theorem Holds.there {config : Value} (holds : Holds limits file config) :
    file.content ≠ none := by
  obtain ⟨text, written, -⟩ := holds
  simp [written]

theorem Holds.get?_eq_some_iff {fields : Fields} (holds : Holds limits file (.object fields))
    {id : String} {entry : Value} :
    Fields.get? fields id = some entry ↔ (id, entry) ∈ fields := by
  obtain ⟨text, -, read⟩ := holds
  exact Fields.get?_eq_some_iff (Json.nodup_keys_readWithin read)

theorem loadWithin_cases (limits : Json.Limits) (file : ActivationFile) :
    (file.content = none ∧ file.loadWithin limits = .ok .null) ∨
      (∃ config, Holds limits file config ∧ file.loadWithin limits = .ok config) ∨
      file.content ≠ none ∧ (∀ config, ¬ Holds limits file config) ∧
        ∃ fault, file.loadWithin limits = .error fault := by
  unfold loadWithin
  cases written : file.content with
  | none => exact .inl ⟨rfl, rfl⟩
  | some text =>
      rcases read : Json.readWithin limits text with refusal | config
      · refine .inr (.inr ⟨Option.some_ne_none _, ?_, unreadable refusal, by simp [read, Except.mapError]⟩)
        rintro config ⟨other, writtenToo, readToo⟩
        obtain rfl : text = other := Option.some.inj (written.symm.trans writtenToo)
        simp [read] at readToo
      · exact .inr (.inl ⟨config, ⟨text, written, read⟩, by simp [read, Except.mapError]⟩)

/-- What is listed from a file: nothing that restricts, the ids that are enabled, or a fault. -/
theorem listWithin_cases (limits : Json.Limits) (file : ActivationFile) :
    ((file.content = none ∨ Holds limits file .null) ∧ file.listWithin limits = .ok .null) ∨
      (∃ (fields : Fields) (ids : List String), Holds limits file (.object fields) ∧
        (∀ entry ∈ fields, Telling entry.2) ∧
        (∀ id, id ∈ ids ↔ ∃ entry, (id, entry) ∈ fields ∧ Enabled entry) ∧
        file.listWithin limits = .ok (.list (ids.map .str))) ∨
      file.content ≠ none ∧ ¬ Holds limits file .null ∧
        (∀ fields, Holds limits file (.object fields) →
          ∃ entry ∈ fields, ¬ Telling entry.2) ∧
        ∃ fault, file.listWithin limits = .error fault := by
  unfold listWithin
  rcases loadWithin_cases limits file with ⟨missing, loaded⟩ | ⟨config, holds, loaded⟩ |
    ⟨there, unread, fault, loaded⟩
  · exact .inl ⟨.inl missing, by rw [loaded]; rfl⟩
  · have there : file.content ≠ none := holds.there
    cases config with
    | null => exact .inl ⟨.inr holds, by rw [loaded]; rfl⟩
    | object fields =>
        rcases enabledIds_cases fields with ⟨telling, ids, listed, among⟩ | ⟨silent, failed⟩
        · refine .inr (.inl ⟨fields, ids, holds, telling, among, ?_⟩)
          simp [loaded, listed, Value.entries, bind, Except.bind, pure, Except.pure]
        · refine .inr (.inr ⟨there, holds.nothingElse (by simp), ?_, .notAnObject, ?_⟩)
          · intro others holdsToo
            obtain rfl : fields = others := Value.object.inj (holds.unique holdsToo)
            exact silent
          · simp [loaded, failed, Value.entries, bind, Except.bind]
    | _ =>
        exact .inr (.inr ⟨there, holds.nothingElse (by simp),
          fun _ holdsToo => absurd holdsToo (holds.nothingElse (by simp)), .notAnObject,
          by rw [loaded]; rfl⟩)
  · exact .inr (.inr ⟨there, unread _, fun _ holds => absurd holds (unread _), fault,
      by rw [loaded]; rfl⟩)

end

/-! ### What a registry makes of it -/

section

variable {ids : Value} {allowed : Option (List String)}

/-- A file as the source of an allowlist. -/
def source (limits : Json.Limits) (file : ActivationFile) : Listing :=
  .ofOutcome (file.listWithin limits)

theorem loadAllowlist_ok (audience : Audience) (read : Registry.allowedIds? ids = .ok allowed)
    (hub : Hub) :
    (hub.loadAllowlist audience (some (.give ids))).1 = .ok ids ∧
      (audience.Bystanding →
        (hub.loadAllowlist audience (some (.give ids))).2.registry.allowlist = allowed) := by
  obtain ⟨answered, inForce⟩ := Hub.perform_setAllowlist audience read hub
  refine ⟨?_, inForce⟩
  calc (hub.loadAllowlist audience (some (.give ids))).1
      = (hub.perform audience (.setAllowlist ids)).1.map fun _ => ids := rfl
    _ = .ok ids := by rw [answered]; rfl

/-- Loading the allowlist from a file succeeds when there is no file, and of the files that are
there with those that hold `null` or an object whose entries all say whether they are enabled.
A load that fails leaves everything as it was.  One that succeeds lifts the restriction when
there is no file or it holds `null`, and with any other file the ids that are allowed are
those with an entry that is enabled. -/
theorem loadAllowlist_verdict (limits : Json.Limits) (file : ActivationFile)
    (audience : Audience) (hub : Hub) :
    ((∃ ids, (hub.loadAllowlist audience (some (file.source limits))).1 = .ok ids) ↔
      file.content = none ∨ Holds limits file .null ∨
        ∃ fields, Holds limits file (.object fields) ∧ ∀ entry ∈ fields, Telling entry.2) ∧
    (∀ fault, (hub.loadAllowlist audience (some (file.source limits))).1 = .error fault →
      (hub.loadAllowlist audience (some (file.source limits))).2 = hub) ∧
    ∀ ids, (hub.loadAllowlist audience (some (file.source limits))).1 = .ok ids →
      audience.Bystanding →
      ((hub.loadAllowlist audience (some (file.source limits))).2.registry.allowlist = none ↔
        file.content = none ∨ Holds limits file .null) ∧
      ∀ fields, Holds limits file (.object fields) → ∀ id,
        (hub.loadAllowlist audience (some (file.source limits))).2.registry.isAllowed (.str id)
            = .ok true ↔
          ∃ entry, Fields.get? fields id = some entry ∧ Enabled entry := by
  rcases listWithin_cases limits file with ⟨unrestricted, listed⟩ |
    ⟨fields, names, holds, telling, among, listed⟩ | ⟨there, notNull, silent, fault, listed⟩
  · rw [source, listed, Listing.ofOutcome]
    have read : Registry.allowedIds? .null = .ok none := rfl
    obtain ⟨answered, inForce⟩ := loadAllowlist_ok audience read hub
    refine ⟨⟨fun _ => unrestricted.imp_right .inl, fun _ => ⟨.null, answered⟩⟩, ?_, ?_⟩
    · intro fault failed
      rw [answered] at failed
      cases failed
    · intro ids _ bystanding
      refine ⟨by simp [inForce bystanding, unrestricted], ?_⟩
      intro fields holds
      rcases unrestricted with missing | null
      · exact absurd missing holds.there
      · exact absurd holds (null.nothingElse (by simp))
  · rw [source, listed, Listing.ofOutcome]
    obtain ⟨answered, inForce⟩ := loadAllowlist_ok audience (Registry.allowedIds?_texts names) hub
    refine ⟨⟨fun _ => .inr (.inr ⟨fields, holds, telling⟩), fun _ => ⟨_, answered⟩⟩, ?_, ?_⟩
    · intro fault failed
      rw [answered] at failed
      cases failed
    · intro ids _ bystanding
      constructor
      · rw [inForce bystanding]
        refine ⟨fun lifted => absurd lifted (Option.some_ne_none _), ?_⟩
        rintro (missing | null)
        · exact absurd missing holds.there
        · exact absurd holds (null.nothingElse (by simp))
      · intro others holdsToo id
        obtain rfl : fields = others := Value.object.inj (holds.unique holdsToo)
        rw [Registry.isAllowed_iff_mem (inForce bystanding), List.mem_eraseDups, among]
        exact exists_congr fun entry => and_congr_left fun _ => holds.get?_eq_some_iff.symm
  · rw [source, listed, Listing.ofOutcome]
    refine ⟨⟨?_, ?_⟩, fun _ _ => rfl, ?_⟩
    · rintro ⟨ids, loaded⟩
      cases loaded
    · rintro (missing | null | ⟨fields, holds, telling⟩)
      · exact absurd missing there
      · exact absurd null notNull
      · obtain ⟨entry, member, silent⟩ := silent fields holds
        exact absurd (telling entry member) silent
    · intro ids loaded
      cases loaded

end

/-- Only images are allowed, and nobody listens. -/
def imagesOnly : Hub := .of { Registry.empty with allowlist := some ["Image"] }

def listFile : ActivationFile := ⟨some "\x7b\"List\":true\x7d"⟩

theorem holds_listFile (depth : Nat) :
    Holds ⟨Json.Limits.greatestDigits, depth + 1⟩ listFile (.object [("List", .bool true)]) := by
  have key (standIns : Text.StandIns) (rest : List Char) :
      Json.textFrom standIns 1 2 ('L' :: 'i' :: 's' :: 't' :: '"' :: rest) =
        .ok ⟨['L', 'i', 's', 't'], 7, rest⟩ := by
    cbv
  refine ⟨_, rfl, ?_⟩
  simp [Json.readWithin, Json.readChars, Json.skipSpace, Json.isSpace, Json.valueFrom,
    Json.Limits.inside?, Json.fieldsFrom, key, Json.scalarFrom, Json.words, Fields.insert, bind,
    Except.bind, pure, Except.pure, Except.map]

theorem loadAllowlist_verdict_listFile :
    (imagesOnly.loadAllowlist .silent
        (some (.ofOutcome listFile.listActive))).2.registry.isAllowed (.str "List") = .ok true ∧
      (imagesOnly.loadAllowlist .silent
        (some (.ofOutcome listFile.listActive))).2.registry.isAllowed (.str "Image") ≠
          .ok true := by
  have named : Listing.ofOutcome listFile.listActive = listFile.source (.under (steps + 1)) := rfl
  rw [named]
  obtain ⟨succeeds, -, inForce⟩ :=
    loadAllowlist_verdict (.under (steps + 1)) listFile .silent imagesOnly
  have telling : ∀ entry ∈ [("List", Value.bool true)], Telling entry.2 := by
    simp [Telling]
  have holds : Holds (.under (steps + 1)) listFile (.object [("List", .bool true)]) :=
    holds_listFile 976
  obtain ⟨ids, loaded⟩ := succeeds.mpr (.inr (.inr ⟨_, holds, telling⟩))
  obtain ⟨-, allowed⟩ := inForce ids loaded Audience.bystanding_silent
  constructor
  · exact (allowed _ holds "List").mpr ⟨_, rfl, .flag⟩
  · intro permitted
    obtain ⟨entry, found, -⟩ := (allowed _ holds "Image").mp permitted
    simp [Fields.get?] at found

/-- A file that is there lifts the restriction, as if there were none. -/
theorem loadAllowlist_nullFile :
    (imagesOnly.loadAllowlist .silent (some (.ofOutcome (listActive ⟨some "null"⟩)))).1 =
        .ok .null ∧
      (imagesOnly.loadAllowlist .silent
        (some (.ofOutcome (listActive ⟨some "null"⟩)))).2.registry.allowlist = none := by
  have listed : listActive ⟨some "null"⟩ = .ok .null := rfl
  rw [listed]
  exact ⟨rfl, rfl⟩

end ActivationFile

end PageComposer
