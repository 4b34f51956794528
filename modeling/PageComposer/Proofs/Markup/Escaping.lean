import Mathlib.Data.List.TakeWhile
import PageComposer.Proofs.Markup.Reading
import PageComposer.Text.Blank

/-!
# Undoing escapes

`unescape` goes through a text once, from left to right, and puts in place of every entity the
character that it stands for.  It makes something of every text, where `read` refuses most.
Escaping and `unescape` are inverse to each other between all texts and the `Inert` ones: those
without brackets and quotes in which every ampersand begins an entity.  So an escaped value ends
at the first quote behind it, whatever follows, and an attribute at the front of a text can be
told apart from the rest.
-/

namespace PageComposer.Text

variable {mark : Char} {text front after : String}

/-- A text is cut at the first place where a character occurs. -/
theorem partition_eq_iff :
    partition mark text = (front, some after) ↔
      mark ∉ front.toList ∧ text.toList = front.toList ++ mark :: after.toList := by
  constructor
  · intro cut
    rw [partition, Prod.mk.injEq] at cut
    obtain ⟨rfl, behind⟩ := cut
    have whole := List.takeWhile_append_dropWhile (p := (· ≠ mark)) (l := text.toList)
    have stops := List.head?_dropWhile_not (· ≠ mark) text.toList
    generalize text.toList.dropWhile (· ≠ mark) = tail at behind whole stops
    rw [String.toList_ofList]
    cases tail with
    | nil => simp at behind
    | cons first rest =>
        simp only [Option.some.injEq] at behind
        subst behind
        obtain rfl : first = mark := by simpa using stops
        refine ⟨?_, by simpa using whole.symm⟩
        intro among
        simpa using List.mem_takeWhile_imp among
  · rintro ⟨outside, chars⟩
    have passed : ∀ char ∈ front.toList, decide (char ≠ mark) = true := by
      intro char among
      rw [decide_eq_true_iff]
      rintro rfl
      exact outside among
    rw [partition, chars, List.takeWhile_append_of_pos passed, List.dropWhile_append_of_pos passed]
    simp

/-- There is one first place where a character occurs. -/
theorem append_cons_inj {first second rest others : List Char} (outsideFirst : mark ∉ first)
    (outsideSecond : mark ∉ second) :
    first ++ mark :: rest = second ++ mark :: others ↔ first = second ∧ rest = others := by
  constructor
  · intro same
    induction first generalizing second with
    | nil =>
        cases second with
        | nil => exact ⟨rfl, (List.cons.inj same).2⟩
        | cons char second =>
            rw [(List.cons.inj same).1] at outsideSecond
            exact absurd List.mem_cons_self outsideSecond
    | cons char first induction =>
        rw [List.mem_cons, not_or] at outsideFirst
        cases second with
        | nil => exact absurd (List.cons.inj same).1.symm outsideFirst.1
        | cons other second =>
            rw [List.mem_cons, not_or] at outsideSecond
            obtain ⟨rfl, later⟩ := List.cons.inj same
            obtain ⟨rfl, rfl⟩ := induction outsideFirst.2 outsideSecond.2 later
            exact ⟨rfl, rfl⟩
  · rintro ⟨rfl, rfl⟩
    rfl

end PageComposer.Text

namespace PageComposer.Markup

variable {entry : List Char × Char} {char : Char} {chars rest : List Char}

/-! ### Entities -/

/-- An entity as it stands in a text. -/
def entityText (entry : List Char × Char) : List Char := '&' :: (entry.1 ++ [';'])

/-- The entity that a text begins with. -/
def leading? (chars : List Char) : Option (List Char × Char) :=
  entities.find? fun entry => (entityText entry).isPrefixOf chars

/-- The characters that stand in a text for no other purpose than markup. -/
def marks : List Char := ['<', '>', '"', '\'']

theorem entityText_spec (member : entry ∈ entities) :
    (∀ mark ∈ marks, mark ∉ entityText entry) ∧ '&' ∉ entry.1 ++ [';'] := by
  have unmarked : (entities.all fun entry =>
      marks.all fun mark => decide (mark ∉ entityText entry)) = true := by decide
  have once : ∀ entry ∈ entities, '&' ∉ entry.1 ++ [';'] := by decide
  simp only [List.all_eq_true, decide_eq_true_iff] at unmarked
  exact ⟨unmarked entry member, once entry member⟩

/-- No entity begins as another one does. -/
theorem leading?_entityText (member : entry ∈ entities) (rest : List Char) :
    leading? (entityText entry ++ rest) = some entry := by
  simp only [entities, List.mem_cons, List.not_mem_nil, or_false] at member
  rcases member with rfl | rfl | rfl | rfl | rfl <;> rfl

theorem of_leading? (found : leading? chars = some entry) :
    entry ∈ entities ∧ ∃ rest, chars = entityText entry ++ rest := by
  have begins := List.find?_some found
  obtain ⟨rest, same⟩ := List.isPrefixOf_iff_prefix.mp begins
  exact ⟨List.mem_of_find?_eq_some found, rest, same.symm⟩

theorem leading?_of_ne (plain : char ≠ '&') (rest : List Char) :
    leading? (char :: rest) = none := by
  rw [leading?, List.find?_eq_none]
  intro entry _ begins
  have front := List.isPrefixOf_iff_prefix.mp begins
  rw [entityText, List.cons_prefix_cons] at front
  exact plain front.1.symm

/-- A character is escaped as the entity that stands for it, or is as it is. -/
theorem escapeChar_cases (char : Char) :
    (escapeChar char = [char] ∧ char ≠ '&' ∧ char ∉ marks) ∨
      ∃ entry ∈ entities, entry.2 = char ∧ escapeChar char = entityText entry := by
  rcases escapeChar_spec char with ⟨same, plain, notMark⟩ | ⟨name, written, -, meant⟩
  · left
    exact ⟨same, plain, by simpa [marks] using notMark⟩
  · right
    obtain ⟨entry, found, means⟩ := Option.map_eq_some_iff.mp meant
    obtain rfl : entry.1 = name := by simpa using List.find?_some found
    exact ⟨entry, List.mem_of_find?_eq_some found, means, written⟩

theorem escapeChar_of_plain (plain : char ≠ '&') (unmarked : char ∉ marks) :
    escapeChar char = [char] := by
  simp only [marks, List.mem_cons, List.not_mem_nil, or_false, not_or] at unmarked
  simp [escapeChar, plain, unmarked]

theorem escapeChar_of_entity (member : entry ∈ entities) :
    escapeChar entry.2 = entityText entry := by
  have all : ∀ entry ∈ entities, escapeChar entry.2 = entityText entry := by decide
  exact all entry member

/-! ### Inert texts -/

/-- A text that means nothing to markup: no bracket and no quote is in it, and every ampersand
begins an entity. -/
structure Inert (chars : List Char) : Prop where
  unmarked : ∀ mark ∈ marks, mark ∉ chars
  ampersands : ∀ rest, '&' :: rest <:+ chars → ∃ entry ∈ entities, entityText entry <+: '&' :: rest

theorem Inert.nil : Inert [] := by
  constructor
  · simp
  · simp

theorem Inert.behind (inert : Inert (chars ++ rest)) : Inert rest := by
  constructor
  · intro mark isMark among
    exact inert.unmarked mark isMark (List.mem_append_right chars among)
  · intro tail ends
    exact inert.ampersands tail (ends.trans (List.suffix_append chars rest))

theorem Inert.cons (plain : char ≠ '&') (unmarked : char ∉ marks) (inert : Inert rest) :
    Inert (char :: rest) := by
  constructor
  · intro mark isMark among
    rcases List.mem_cons.mp among with rfl | later
    · exact unmarked isMark
    · exact inert.unmarked mark isMark later
  · intro tail ends
    rcases List.suffix_cons_iff.mp ends with whole | later
    · rw [List.cons.injEq] at whole
      exact absurd whole.1.symm plain
    · exact inert.ampersands tail later

theorem suffix_of_not_mem {mark : Char} {tail : List Char} (outside : mark ∉ chars)
    (ends : mark :: tail <:+ chars ++ rest) : mark :: tail <:+ rest := by
  induction chars with
  | nil => exact ends
  | cons first chars induction =>
      rw [List.mem_cons, not_or] at outside
      rcases List.suffix_cons_iff.mp ends with whole | later
      · rw [List.cons.injEq] at whole
        exact absurd whole.1 outside.1
      · exact induction outside.2 later

theorem Inert.entity (member : entry ∈ entities) (inert : Inert rest) :
    Inert (entityText entry ++ rest) := by
  obtain ⟨unmarked, once⟩ := entityText_spec member
  constructor
  · intro mark isMark among
    rcases List.mem_append.mp among with inside | later
    · exact unmarked mark isMark inside
    · exact inert.unmarked mark isMark later
  · intro tail ends
    rcases List.suffix_cons_iff.mp ends with whole | later
    · refine ⟨entry, member, ?_⟩
      rw [whole]
      exact List.prefix_append (entityText entry) rest
    · exact inert.ampersands tail (suffix_of_not_mem once later)

theorem inert_flatMap (chars : List Char) : Inert (chars.flatMap escapeChar) := by
  induction chars with
  | nil => exact Inert.nil
  | cons char rest induction =>
      rw [List.flatMap_cons]
      rcases escapeChar_cases char with ⟨same, plain, unmarked⟩ | ⟨entry, member, -, written⟩
      · rw [same]
        exact Inert.cons plain unmarked induction
      · rw [written]
        exact Inert.entity member induction

/-! ### Unescaping -/

/-- A text with the entities in it undone; the first characters are skipped. -/
def unescapeFrom (skipped : Nat) : List Char → List Char
  | [] => []
  | char :: rest =>
      match skipped, leading? (char :: rest) with
      | skipped + 1, _ => unescapeFrom skipped rest
      | 0, some entry => entry.2 :: unescapeFrom (entry.1.length + 1) rest
      | 0, none => char :: unescapeFrom 0 rest

def unescape (text : String) : String := String.ofList (unescapeFrom 0 text.toList)

theorem unescapeFrom_length (front rest : List Char) :
    unescapeFrom front.length (front ++ rest) = unescapeFrom 0 rest := by
  induction front with
  | nil => rfl
  | cons char front induction =>
      rw [List.cons_append, List.length_cons, unescapeFrom]
      exact induction

theorem unescapeFrom_entityText (member : entry ∈ entities) (rest : List Char) :
    unescapeFrom 0 (entityText entry ++ rest) = entry.2 :: unescapeFrom 0 rest := by
  have found := leading?_entityText member rest
  rw [entityText, List.cons_append] at found
  have skipped := unescapeFrom_length (entry.1 ++ [';']) rest
  rw [List.length_append, List.length_singleton] at skipped
  rw [entityText, List.cons_append]
  simp only [unescapeFrom, found, skipped]

theorem unescapeFrom_of_ne (plain : char ≠ '&') (rest : List Char) :
    unescapeFrom 0 (char :: rest) = char :: unescapeFrom 0 rest := by
  simp only [unescapeFrom, leading?_of_ne plain rest]

/-- Escapes are undone whatever follows them. -/
theorem unescapeFrom_flatMap (chars rest : List Char) :
    unescapeFrom 0 (chars.flatMap escapeChar ++ rest) = chars ++ unescapeFrom 0 rest := by
  induction chars with
  | nil => rfl
  | cons char chars induction =>
      rw [List.flatMap_cons, List.append_assoc, List.cons_append]
      rcases escapeChar_cases char with ⟨same, plain, -⟩ | ⟨entry, member, rfl, written⟩
      · rw [same, List.singleton_append, unescapeFrom_of_ne plain, induction]
      · rw [written, unescapeFrom_entityText member, induction]

/-- An inert text is the escaped form of what it stands for.  By induction on its length: an
entity is undone in one step. -/
theorem flatMap_unescapeFrom {chars : List Char} (inert : Inert chars) :
    (unescapeFrom 0 chars).flatMap escapeChar = chars := by
  cases chars with
  | nil => rfl
  | cons char rest =>
      cases found : leading? (char :: rest) with
      | some entry =>
          obtain ⟨member, behind, same⟩ := of_leading? found
          have shorter : behind.length < (char :: rest).length := by
            simp [same, entityText]
            omega
          rw [same] at inert ⊢
          rw [unescapeFrom_entityText member, List.flatMap_cons, escapeChar_of_entity member,
            flatMap_unescapeFrom inert.behind]
      | none =>
          have plain : char ≠ '&' := by
            rintro rfl
            obtain ⟨entry, member, behind, same⟩ := inert.ampersands rest (List.suffix_refl _)
            rw [← same, leading?_entityText member] at found
            exact Option.some_ne_none entry found
          have unmarked : char ∉ marks := by
            intro isMark
            exact inert.unmarked char isMark List.mem_cons_self
          have whole : Inert ([char] ++ rest) := inert
          rw [unescapeFrom_of_ne plain, List.flatMap_cons, escapeChar_of_plain plain unmarked,
            flatMap_unescapeFrom whole.behind]
          rfl
termination_by chars.length

theorem toList_escape (text : String) : (escape text).toList = text.toList.flatMap escapeChar := by
  rw [escape, String.toList_ofList]

theorem not_mem_escape {mark : Char} (isMark : mark ∈ marks) (text : String) :
    mark ∉ (escape text).toList := by
  rw [toList_escape]
  exact (inert_flatMap text.toList).unmarked mark isMark

theorem unescape_escape (text : String) : unescape (escape text) = text := by
  have undone := unescapeFrom_flatMap text.toList []
  rw [List.append_nil] at undone
  rw [unescape, toList_escape, undone]
  simp [unescapeFrom]

theorem escape_inj {left right : String} : escape left = escape right ↔ left = right := by
  constructor
  · intro same
    rw [← unescape_escape left, same, unescape_escape]
  · rintro rfl
    rfl

/-- The escaped texts are the inert ones. -/
theorem inert_iff {text : String} : Inert text.toList ↔ escape (unescape text) = text := by
  constructor
  · intro inert
    rw [← String.toList_inj, toList_escape, unescape, String.toList_ofList,
      flatMap_unescapeFrom inert]
  · intro same
    rw [← same, toList_escape]
    exact inert_flatMap _

theorem escape_append (left right : String) :
    escape (left ++ right) = escape left ++ escape right := by
  rw [← String.toList_inj, String.toList_append, toList_escape, toList_escape, toList_escape,
    String.toList_append, List.flatMap_append]

/-! ### Attributes -/

/-- The name and the value of the attribute that a text begins with, and what follows it. -/
def splitAttribute? (text : String) : Option (String × String × String) := do
  let (name, behind) := Text.partition '=' text
  let (gap, quoted) := Text.partition '"' (← behind)
  let (content, after) := Text.partition '"' (← quoted)
  if gap = "" then some (name, unescape content, ← after) else none

theorem splitAttribute?_eq_some_iff {text name value after : String} :
    splitAttribute? text = some (name, value, after) ↔
      ∃ content, '=' ∉ name.toList ∧ '"' ∉ content.toList ∧
        text = name ++ "=\"" ++ content ++ "\"" ++ after ∧ unescape content = value := by
  constructor
  · intro split
    rcases first : Text.partition '=' text with ⟨own, - | behind⟩
    · simp [splitAttribute?, first] at split
    rcases second : Text.partition '"' behind with ⟨gap, - | quoted⟩
    · simp [splitAttribute?, first, second] at split
    rcases third : Text.partition '"' quoted with ⟨content, - | others⟩
    · simp [splitAttribute?, first, second, third] at split
    simp only [splitAttribute?, first, second, third, bind, Option.bind_some] at split
    by_cases adjacent : gap = ""
    · rw [if_pos adjacent, Option.some.injEq, Prod.mk.injEq, Prod.mk.injEq] at split
      obtain ⟨rfl, meant, rfl⟩ := split
      obtain ⟨clean, whole⟩ := Text.partition_eq_iff.mp first
      obtain ⟨-, opened⟩ := Text.partition_eq_iff.mp second
      obtain ⟨unquoted, closed⟩ := Text.partition_eq_iff.mp third
      refine ⟨content, clean, unquoted, ?_, meant⟩
      rw [← String.toList_inj, whole, opened, closed, adjacent]
      simp
    · rw [if_neg adjacent] at split
      exact absurd split (Option.some_ne_none _).symm
  · rintro ⟨content, clean, unquoted, rfl, rfl⟩
    have first : Text.partition '=' (name ++ "=\"" ++ content ++ "\"" ++ after) =
        (name, some ("\"" ++ content ++ "\"" ++ after)) :=
      Text.partition_eq_iff.mpr ⟨clean, by simp⟩
    have second : Text.partition '"' ("\"" ++ content ++ "\"" ++ after) =
        ("", some (content ++ "\"" ++ after)) :=
      Text.partition_eq_iff.mpr ⟨by simp, by simp⟩
    have third : Text.partition '"' (content ++ "\"" ++ after) = (content, some after) :=
      Text.partition_eq_iff.mpr ⟨unquoted, by simp⟩
    simp [splitAttribute?, first, second, third]

theorem splitAttribute?_attributeText {name : String} (clean : '=' ∉ name.toList) (value : Value)
    (after : String) :
    splitAttribute? (attributeText name value ++ after) = some (name, value.display, after) := by
  rw [splitAttribute?_eq_some_iff]
  exact ⟨escapeValue value, clean, not_mem_escape (by decide) value.display, rfl,
    unescape_escape value.display⟩

/-- The text of an escaped value is inert, and unescaping gives back the text of the value, as it
gives back what is escaped as any inert text.  So values are escaped alike just when their texts
are the same, and texts one after another are escaped one after another.  From an attribute with
anything behind it the name, the text of the value and what is behind are won back, and there is
no second way to split it, not even into a value that is not escaped. -/
theorem escaping_reversible :
    (∀ value : Value, Inert (escapeValue value).toList ∧
        unescape (escapeValue value) = value.display) ∧
      (∀ text : String, Inert text.toList ↔ escape (unescape text) = text) ∧
      (∀ left right : Value, escapeValue left = escapeValue right ↔
        left.display = right.display) ∧
      (∀ left right : String, escapeValue (.str (left ++ right)) =
        escapeValue (.str left) ++ escapeValue (.str right)) ∧
      ∀ name : String, '=' ∉ name.toList → ∀ (value : Value) (after : String),
        splitAttribute? (attributeText name value ++ after) =
            some (name, value.display, after) ∧
          ∀ other content others : String, '=' ∉ other.toList → '"' ∉ content.toList →
            attributeText name value ++ after = other ++ "=\"" ++ content ++ "\"" ++ others →
            other = name ∧ unescape content = value.display ∧ others = after := by
  refine ⟨?_, fun text => inert_iff, fun left right => escape_inj,
    fun left right => escape_append left right, ?_⟩
  · intro value
    refine ⟨?_, unescape_escape value.display⟩
    rw [escapeValue, toList_escape]
    exact inert_flatMap _
  · intro name clean value after
    have won := splitAttribute?_attributeText clean value after
    refine ⟨won, fun other content others otherClean unquoted same => ?_⟩
    have again : splitAttribute? (attributeText name value ++ after) =
        some (other, unescape content, others) :=
      splitAttribute?_eq_some_iff.mpr ⟨content, otherClean, unquoted, same, rfl⟩
    rw [won] at again
    simpa [eq_comm] using again

/-- An attribute with a text for a value that looks like markup, in front of another attribute. -/
theorem escaping_reversible_hostileTitle :
    '=' ∉ "title".toList ∧
      attributeText "title" (.str "&lt;\" x='") ++ " alt=\"\"" =
        "title=\"&amp;lt;&quot; x=&#39;\" alt=\"\"" ∧
      splitAttribute? "title=\"&amp;lt;&quot; x=&#39;\" alt=\"\"" =
        some ("title", "&lt;\" x='", " alt=\"\"") := by
  have clean : '=' ∉ "title".toList := by decide
  obtain ⟨-, -, -, -, split⟩ := escaping_reversible
  obtain ⟨won, -⟩ := split "title" clean (.str "&lt;\" x='") " alt=\"\""
  exact ⟨clean, by decide, won⟩

end PageComposer.Markup
