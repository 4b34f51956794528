import PageComposer.Proofs.Registry.Standing
import PageComposer.Proofs.Text.Casing

/-!
# What a search finds

A search compares texts in lower case, and what a capital sigma becomes depends on the
characters around it.  So a query finds all that another one finds, whatever is registered,
just when it stands in the other one in lower case (`search_subset_iff`).  For settled queries
this is so as soon as it stands in it as it is, and for no others.
-/

namespace PageComposer

/-! ### Occurrences -/

theorem Text.startsWith_iff {part chars : List Char} :
    startsWith part chars = true ↔ part <+: chars := by
  induction part generalizing chars with
  | nil => simp [startsWith]
  | cons char rest induction =>
      cases chars with
      | nil => simp [startsWith]
      | cons other others => simp [startsWith, induction, List.cons_prefix_cons]

theorem Text.occursIn_iff {part chars : List Char} :
    occursIn part chars = true ↔ part <:+: chars := by
  induction chars with
  | nil => simp [occursIn]
  | cons char rest induction =>
      rw [occursIn, Bool.or_eq_true, startsWith_iff, induction, List.infix_cons_iff]

theorem Text.contains_lower_iff {text part : String} :
    contains (lower text) (lower part) = true ↔
      lowerAfter [] part.toList <:+: lowerAfter [] text.toList := by
  rw [contains, occursIn_iff, toList_lower, toList_lower]

namespace Metadata

/-- What a search looks through, all of it texts as a rule. -/
def said (metadata : Metadata) : List Value :=
  .str metadata.name :: metadata.description :: metadata.tags

/-- Name, description and tags are texts. -/
def Textual (metadata : Metadata) : Prop := ∀ value ∈ metadata.said, ∃ text, value = .str text

theorem Textual.searched {metadata : Metadata} (textual : metadata.Textual) :
    Registry.searched metadata = metadata.said := by
  obtain ⟨text, described⟩ := textual metadata.description (by simp [said])
  rw [Registry.searched, said, described]
  by_cases empty : text = "" <;> simp [Value.orElse, Value.truthy, empty]

end Metadata

/-- The change is about a plugin. -/
def Change.ofPlugin : Change → Bool
  | .register _ _ | .unregister _ => true
  | _ => false

namespace Registry

/-- A registry that came about as plugins were registered and unregistered, and which says
nothing but texts about them. -/
structure Textual (registry : Registry) : Prop where
  reached : ∃ changes, Reached changes registry ∧ ∀ change ∈ changes, change.ofPlugin = true
  said : ∀ registration ∈ registry.registrations, registration.metadata.Textual

/-- A search finds every plugin with the query in its name, its description or a tag. -/
def Finds (registry : Registry) (query : String) : Prop :=
  ∀ registration ∈ registry.registrations,
    (∃ text, .str text ∈ registration.metadata.said ∧ query.toList <:+: text.toList) →
      registration.id ∈ registry.search query

variable {registry : Registry} {registration : Registration} {query longer : String}

theorem matches_iff (textual : registration.metadata.Textual) :
    Matches query registration = true ↔
      ∃ text, .str text ∈ registration.metadata.said ∧
        Text.lowerAfter [] query.toList <:+: Text.lowerAfter [] text.toList := by
  rw [Matches, textual.searched, List.any_eq_true]
  constructor
  · rintro ⟨value, said, found⟩
    obtain ⟨text, rfl⟩ := textual value said
    exact ⟨text, said, Text.contains_lower_iff.mp found⟩
  · rintro ⟨text, said, inside⟩
    exact ⟨.str text, said, Text.contains_lower_iff.mpr inside⟩

theorem mem_search_iff {id : String} :
    id ∈ registry.search query ↔
      ∃ registration ∈ registry.registrations,
        Matches query registration = true ∧ registration.id = id := by
  simp [search, and_assoc]

theorem search_sublist_types (registry : Registry) (query : String) :
    (registry.search query).Sublist registry.types :=
  List.filter_sublist.map _

theorem search_congr (same : Text.lower longer = Text.lower query) (registry : Registry) :
    registry.search longer = registry.search query := by
  have matching : Matches longer = Matches query := by
    funext registration
    rw [Matches, Matches, same]
  rw [search, search, matching]

/-! ### One query and another -/

/-- A query finds all that another one finds if it stands in it in lower case. -/
theorem search_sublist_search
    (inside : Text.lowerAfter [] query.toList <:+: Text.lowerAfter [] longer.toList)
    (registry : Registry) : (registry.search longer).Sublist (registry.search query) := by
  apply List.Sublist.map
  apply List.monotone_filter_right
  intro registration found
  rw [Matches, List.any_eq_true] at found ⊢
  obtain ⟨value, among, held⟩ := found
  exact ⟨value, among,
    Text.contains_lower_iff.mpr (inside.trans (Text.contains_lower_iff.mp held))⟩

/-- A plugin of which nothing is said but its name. -/
def namesake (name : String) : Registration where
  id := "Box"
  plugin := { Plugin.blank with id := .str "Box" }
  metadata := ⟨name, "general", .str "", .str "1.0.0", .str "CMS Core Team", [], []⟩

/-- The registry of a single plugin. -/
def holding (name : String) : Registry := { empty with registrations := [namesake name] }

theorem reached_holding {name : String} (proper : name ≠ "") :
    Reached [.register (namesake name).plugin (.draft (.named (.str name)))] (holding name) := by
  have described : metadataFor "Box" (namesake name).plugin (.draft (.named (.str name))) =
      .ok (namesake name).metadata :=
    Metadata.ofDraft_ok_iff.mpr ⟨rfl, proper, by simp [namesake]⟩
  have accepted : empty.register (namesake name).plugin (.draft (.named (.str name))) =
      .ok (holding name, .registered "Box") :=
    register_of_ok rfl (by decide) rfl described rfl
  exact Reached.change (.new .none) (change_register_of_ok accepted)

theorem textual_holding {name : String} (proper : name ≠ "") : (holding name).Textual where
  reached := ⟨_, reached_holding proper, by simp [Change.ofPlugin]⟩
  said := by simp [holding, namesake, Metadata.Textual, Metadata.said]

theorem mem_search_holding {name : String} :
    "Box" ∈ (holding name).search query ↔
      Text.lowerAfter [] query.toList <:+: Text.lowerAfter [] name.toList := by
  have textual : (namesake name).metadata.Textual := by
    simp [namesake, Metadata.Textual, Metadata.said]
  have single : (holding name).registrations = [namesake name] := rfl
  rw [mem_search_iff, single]
  simp only [List.mem_singleton, exists_eq_left]
  rw [matches_iff textual]
  constructor
  · rintro ⟨⟨text, said, inside⟩, -⟩
    obtain rfl | rfl : text = name ∨ text = "" := by simpa [namesake, Metadata.said] using said
    · exact inside
    · exact inside.trans List.nil_infix
  · intro inside
    exact ⟨⟨name, by simp [namesake, Metadata.said], inside⟩, rfl⟩

/-- A text that is in one piece in two letters is empty. -/
theorem eq_nil_of_infix_letters {chars : List Char} (first : chars <:+: ['a'])
    (second : chars <:+: ['b']) : chars = [] := by
  rcases List.sublist_singleton.mp first.sublist with empty | rfl
  · exact empty
  · exact absurd second.sublist (by decide)

/-- A query finds all that another one finds, whatever is registered, just when it stands in it
in lower case. -/
theorem search_subset_iff :
    (∀ registry : Registry, registry.Textual →
        registry.search longer ⊆ registry.search query) ↔
      Text.lowerAfter [] query.toList <:+: Text.lowerAfter [] longer.toList := by
  constructor
  · intro every
    have inside {name : String} (proper : name ≠ "")
        (found : Text.lowerAfter [] longer.toList <:+: Text.lowerAfter [] name.toList) :
        Text.lowerAfter [] query.toList <:+: Text.lowerAfter [] name.toList :=
      mem_search_holding.mp
        (every _ (textual_holding proper) (mem_search_holding.mpr found))
    by_cases proper : longer = ""
    · -- No plugin has an empty name, but all names hold the empty text.
      subst proper
      have none := eq_nil_of_infix_letters (inside (show "a" ≠ "" by decide) List.nil_infix)
        (inside (show "b" ≠ "" by decide) List.nil_infix)
      rw [none]
      exact List.nil_infix
    · exact inside proper (List.infix_refl _)
  · intro standing registry _
    exact (search_sublist_search standing registry).subset

/-! ### Settled queries -/

theorem finds_of_isSettled (settled : Text.isSettled query = true) (textual : registry.Textual) :
    registry.Finds query := by
  rintro registration registered ⟨text, said, inside⟩
  refine mem_search_iff.mpr ⟨registration, registered, ?_, rfl⟩
  rw [matches_iff (textual.said registration registered)]
  exact ⟨text, said, Text.infix_lowerAfter settled inside⟩

/-- A query that is not settled misses a plugin with the query in its name. -/
theorem exists_missed (unsettled : Text.isSettled query = false) :
    ∃ name, name ≠ "" ∧ query.toList <:+: name.toList ∧ "Box" ∈ (holding name).search name ∧
      "Box" ∉ (holding name).search query := by
  obtain ⟨chars, inside, apart⟩ := Text.exists_not_infix_lowerAfter unsettled
  refine ⟨String.ofList chars, ?_, ?_, mem_search_holding.mpr (List.infix_refl _), ?_⟩
  · intro empty
    have none : chars = [] := by simpa using congrArg String.toList empty
    subst none
    rw [List.eq_nil_of_infix_nil inside] at apart
    exact apart (List.infix_refl _)
  · rwa [String.toList_ofList]
  · rw [mem_search_holding, String.toList_ofList]
    exact apart

/-- A search finds some of the ids, in their order, and the same for queries that are the same
in lower case.  A query finds all that another one finds, whatever is registered, just when it
stands in it in lower case.  The settled queries, among them all without a capital sigma, are
those that find every plugin that has them in its name, its description or a tag, and those
that find all that any longer query finds. -/
theorem search_settled_iff (query : String) :
    (∀ registry : Registry, (registry.search query).Sublist registry.types) ∧
      (∀ other, Text.lower other = Text.lower query →
        ∀ registry : Registry, registry.search other = registry.search query) ∧
      (∀ other,
        (∀ registry : Registry, registry.Textual →
            registry.search other ⊆ registry.search query) ↔
          (Text.lower query).toList <:+: (Text.lower other).toList) ∧
      ('Σ' ∉ query.toList → Text.isSettled query = true) ∧
      (Text.isSettled query = true ↔
        ∀ registry : Registry, registry.Textual → registry.Finds query) ∧
      (Text.isSettled query = true ↔
        ∀ registry : Registry, registry.Textual → ∀ longer, query.toList <:+: longer.toList →
          registry.search longer ⊆ registry.search query) := by
  refine ⟨fun registry => search_sublist_types registry query, fun other same => search_congr same,
    fun other => ?_, Text.settledAfter_of_not_mem, ⟨?_, ?_⟩, ⟨?_, ?_⟩⟩
  · rw [Text.toList_lower, Text.toList_lower]
    exact search_subset_iff
  · exact fun settled registry => finds_of_isSettled settled
  · intro every
    by_contra unsettled
    obtain ⟨name, proper, inside, -, missed⟩ := exists_missed (Bool.not_eq_true _ ▸ unsettled)
    exact missed (every (holding name) (textual_holding proper) (namesake name)
      List.mem_cons_self ⟨name, List.mem_cons_self, inside⟩)
  · intro settled registry _ longer inside
    exact (search_sublist_search (Text.infix_lowerAfter settled inside) registry).subset
  · intro every
    by_contra unsettled
    obtain ⟨name, proper, inside, found, missed⟩ :=
      exists_missed (Bool.not_eq_true _ ▸ unsettled)
    exact missed (every (holding name) (textual_holding proper) name inside found)

theorem search_settled_iff_words :
    Text.isSettled "ΟΥΣΙ" = true ∧ Text.isSettled "ΜΟΥΣ" = false ∧
      (holding "ΜΟΥΣΙΚΗ").Finds "ΟΥΣΙ" ∧
      (¬ ∀ registry : Registry, registry.Textual → registry.Finds "ΜΟΥΣ") := by
  have proper : "ΜΟΥΣΙΚΗ" ≠ "" := by decide
  have settled : Text.isSettled "ΟΥΣΙ" = true := by decide
  have unsettled : Text.isSettled "ΜΟΥΣ" = false := by decide
  obtain ⟨-, -, -, -, finds, -⟩ := search_settled_iff "ΟΥΣΙ"
  obtain ⟨-, -, -, -, misses, -⟩ := search_settled_iff "ΜΟΥΣ"
  refine ⟨settled, unsettled, finds.mp settled _ (textual_holding proper), ?_⟩
  rw [← misses, unsettled]
  simp

/-- A plugin with the query in its name is not found: its last letter is a final sigma only
there. -/
theorem finalSigma_missed :
    (holding "ΜΟΥΣΙΚΗ").Textual ∧ "ΜΟΥΣ".toList <:+: "ΜΟΥΣΙΚΗ".toList ∧
      (holding "ΜΟΥΣΙΚΗ").types = ["Box"] ∧ (holding "ΜΟΥΣΙΚΗ").search "ΜΟΥΣΙΚΗ" = ["Box"] ∧
      (holding "ΜΟΥΣΙΚΗ").search "ΜΟΥΣ" = [] := by
  refine ⟨textual_holding (by decide), ⟨[], "ΙΚΗ".toList, by decide⟩, rfl, by decide, by decide⟩

end Registry

end PageComposer
