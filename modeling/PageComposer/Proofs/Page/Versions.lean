import Mathlib.Computability.Language
import PageComposer.Proofs.Page.Grammar
import PageComposer.Proofs.Text.Digits

/-!
# Versions and the numbers they denote

`Version.expression` is the language of the pattern that reports quote, and `Version.Denotes`
says which numbers a text stands for: its components, which dots join, spell one, two or three
numbers in decimal notation.  The first digit of a component is one of 0 to 9, and those behind
it may be of any script.  A page is accepted exactly with the versions that denote something.
So a version is what decimal notation writes for its numbers only if it has no other digits,
and versions that denote the same numbers differ in nothing but the scripts of digits.
-/

namespace PageComposer

/-- Cutting a text at a character splits it there. -/
theorem Text.cut_eq_splitOn (mark : Char) (chars : List Char) :
    (cut mark chars).1 :: (cut mark chars).2 = chars.splitOn mark := by
  induction chars with
  | nil => simp [cut]
  | cons char rest induction =>
      rw [List.splitOn_cons_eq_if_modifyHead, ← induction, cut]
      by_cases same : char = mark <;> simp [same]

namespace Version

/-! ### The pattern -/

section

open Computability

def zero : Language Char := {['0']}

def leading : Language Char := {chars | ∃ char, isLeadingDigit char = true ∧ chars = [char]}

def digit : Language Char := {chars | ∃ char, Text.isDecimalDigit char = true ∧ chars = [char]}

def dot : Language Char := {['.']}

/-- A zero, or a leading digit and digits behind it. -/
def number : Language Char := zero + leading * digit∗

/-- A number, and behind it at most twice a dot and a number. -/
def expression : Language Char :=
  number * (1 + dot * number + dot * number * (dot * number))

theorem mem_digits_iff {chars : List Char} :
    chars ∈ digit∗ ↔ chars.all Text.isDecimalDigit = true := by
  rw [Language.mem_kstar, List.all_eq_true]
  constructor
  · rintro ⟨parts, rfl, each⟩ char member
    obtain ⟨part, among, inside⟩ := List.mem_flatten.mp member
    obtain ⟨other, decimal, rfl⟩ := each part among
    rwa [List.mem_singleton.mp inside]
  · intro decimal
    refine ⟨chars.map fun char => [char], by rw [← List.flatMap_def, List.flatMap_singleton'], ?_⟩
    simp only [List.mem_map]
    rintro _ ⟨char, member, rfl⟩
    exact ⟨char, decimal char member, rfl⟩

end

theorem mem_number_iff {chars : List Char} : chars ∈ number ↔ isNumber chars = true := by
  rw [number, Language.mem_add, Language.mem_mul]
  constructor
  · rintro (rfl | ⟨_, ⟨char, leads, rfl⟩, digits, decimal, rfl⟩)
    · rfl
    · have notZero : char ≠ '0' := by
        rintro rfl
        simp [isLeadingDigit] at leads
      simp [isNumber, notZero, leads, mem_digits_iff.mp decimal]
  · intro numeric
    unfold isNumber at numeric
    split at numeric
    · exact .inl rfl
    · simp at numeric
    · rename_i first rest _
      obtain ⟨leads, decimal⟩ := Bool.and_eq_true_iff.mp numeric
      exact .inr ⟨[first], ⟨first, leads, rfl⟩, rest, mem_digits_iff.mpr decimal, rfl⟩

/-! ### Components -/

/-- A component of a version that spells a number: what decimal notation writes for the number,
with the digits of any script in place of those behind the first one. -/
def Spells (number : Nat) (component : List Char) : Prop :=
  component.map Text.plainDigit = Nat.toDigits 10 number ∧
    ∃ first ∈ component.head?, first.isDigit = true

theorem isLeadingDigit_iff {char : Char} :
    isLeadingDigit char = true ↔ char.isDigit = true ∧ char ≠ '0' := by
  have first : '1' ≤ char ↔ 49 ≤ char.toNat := Iff.rfl
  have last : char ≤ '9' ↔ char.toNat ≤ 57 := Iff.rfl
  have zero : char = '0' ↔ char.toNat = 48 := Char.toNat_inj.symm
  rw [isLeadingDigit, Bool.and_eq_true, decide_eq_true_eq, decide_eq_true_eq, first, last,
    Char.isDigit_iff_toNat, Ne, zero]
  change _ ↔ (48 ≤ char.toNat ∧ char.toNat ≤ 57) ∧ _
  omega

/-- The numbers of a version are what decimal notation writes without a zero in front. -/
theorem isNumber_iff {component : List Char} :
    isNumber component = true ↔ ∃ number, Spells number component := by
  constructor
  · intro numeric
    unfold isNumber at numeric
    split at numeric
    · exact ⟨0, rfl, '0', rfl, rfl⟩
    · simp at numeric
    · rename_i first rest _
      obtain ⟨leads, decimal⟩ := Bool.and_eq_true_iff.mp numeric
      obtain ⟨plain, notZero⟩ := isLeadingDigit_iff.mp leads
      obtain ⟨atLeast, atMost⟩ := Char.isDigit_iff_toNat.mp plain
      have atLeast : 48 ≤ first.toNat := atLeast
      have atMost : first.toNat ≤ 57 := atMost
      have positive : 0 < first.toNat - 48 := by
        have different : first.toNat ≠ 48 := fun same => notZero (Char.toNat_inj.mp same)
        omega
      have digits : ∀ char ∈ rest.map Text.plainDigit, char.isDigit = true := by
        simp only [List.mem_map]
        rintro _ ⟨char, member, rfl⟩
        exact Text.isDigit_plainDigit (List.all_eq_true.mp decimal char member)
      refine ⟨Nat.ofDigitChars 10 (rest.map Text.plainDigit) (first.toNat - 48), ?_,
        first, rfl, plain⟩
      rw [Text.toDigits_ofDigitChars positive digits, Nat.toDigits_of_lt_base (by omega),
        Text.digitChar_of_isDigit plain, List.map_cons, Text.plainDigit_of_isDigit plain]
      rfl
  · rintro ⟨number, same, first, leads, plain⟩
    obtain ⟨rest, rfl⟩ := List.head?_eq_some_iff.mp leads
    rw [List.map_cons, Text.plainDigit_of_isDigit plain] at same
    by_cases nothing : number = 0
    · obtain ⟨rfl, rfl⟩ : first = '0' ∧ rest = [] := by
        simpa [nothing] using same
      rfl
    · have notZero : first ≠ '0' := by
        rintro rfl
        exact Text.head?_toDigits (Nat.pos_of_ne_zero nothing) (by rw [← same]; rfl)
      have decimal : ∀ char ∈ rest, Text.isDecimalDigit char = true := by
        intro char member
        apply Text.isDecimalDigit_of_plainDigit
        apply Nat.isDigit_of_mem_toDigits (b := 10) (n := number) (by decide) (by decide)
        rw [← same]
        exact List.mem_cons_of_mem _ (List.mem_map_of_mem member)
      unfold isNumber
      split
      · rfl
      · rename_i empty
        cases empty
      · rename_i shape
        cases shape
        simp [isLeadingDigit_iff.mpr ⟨plain, notZero⟩, List.all_eq_true.mpr decimal]

/-! ### Versions -/

/-- A text is one, two or three components with dots between them that spell these numbers. -/
def Denotes (text : String) (numbers : List Nat) : Prop :=
  ∃ components : List (List Char), text.toList = List.intercalate ['.'] components ∧
    List.Forall₂ Spells numbers components ∧ numbers ≠ [] ∧ numbers.length ≤ 3

/-- Numbers in decimal notation with dots between them. -/
def written (numbers : List Nat) : String :=
  ".".intercalate (numbers.map toString)

theorem isDecimalDigit_of_isNumber {component : List Char}
    (numeric : isNumber component = true) :
    ∀ char ∈ component, Text.isDecimalDigit char = true := by
  obtain ⟨number, same, -⟩ := isNumber_iff.mp numeric
  intro char member
  apply Text.isDecimalDigit_of_plainDigit
  apply Nat.isDigit_of_mem_toDigits (b := 10) (n := number) (by decide) (by decide)
  rw [← same]
  exact List.mem_map_of_mem member

theorem not_dot_of_isNumber {component : List Char} (numeric : isNumber component = true) :
    '.' ∉ component :=
  fun member => absurd (isDecimalDigit_of_isNumber numeric '.' member) (by decide)

theorem accepts_eq (text : String) :
    accepts text = (decide ((text.toList.splitOn '.').length ≤ 3) &&
      (text.toList.splitOn '.').all isNumber) := by
  have bound (first : List Char) (others : List (List Char)) :
      (first :: others).length ≤ 3 ↔ others.length ≤ 2 := by
    rw [List.length_cons]
    omega
  rw [← Text.cut_eq_splitOn, accepts]
  simp only [bound, List.all_cons]

/-- A version is one, two or three numbers with dots between them. -/
theorem accepts_iff {text : String} :
    accepts text = true ↔
      ∃ components : List (List Char), text.toList = List.intercalate ['.'] components ∧
        (∀ component ∈ components, isNumber component = true) ∧
        components ≠ [] ∧ components.length ≤ 3 := by
  rw [accepts_eq, Bool.and_eq_true, decide_eq_true_eq, List.all_eq_true]
  constructor
  · rintro ⟨short, numeric⟩
    exact ⟨_, (List.intercalate_splitOn '.').symm, numeric, List.splitOn_ne_nil _ _, short⟩
  · rintro ⟨components, joined, numeric, given, short⟩
    have apart : text.toList.splitOn '.' = components := by
      rw [joined]
      exact List.splitOn_intercalate '.'
        (fun component member => not_dot_of_isNumber (numeric component member)) given
    rw [apart]
    exact ⟨short, numeric⟩

/-- The versions are the texts that the pattern matches as a whole. -/
theorem mem_expression_iff {text : String} :
    text.toList ∈ expression ↔ accepts text = true := by
  rw [accepts_iff, expression]
  simp only [Language.mem_mul, Language.mem_add, Language.mem_one, dot, mem_number_iff]
  constructor
  · rintro ⟨first, numeric, _, (rfl | ⟨_, rfl, second, numericToo, rfl⟩) |
      ⟨_, ⟨_, rfl, second, numericToo, rfl⟩, _, ⟨_, rfl, third, numericThree, rfl⟩, rfl⟩, joined⟩
    · exact ⟨[first], by simp [← joined], by simpa using numeric, by simp, by simp⟩
    · exact ⟨[first, second], by simp [← joined], by simp [numeric, numericToo], by simp,
        by simp⟩
    · exact ⟨[first, second, third], by simp [← joined],
        by simp [numeric, numericToo, numericThree], by simp, by simp⟩
  · rintro ⟨components, joined, numeric, given, short⟩
    rw [joined]
    match components, given, short, numeric with
    | [first], _, _, numeric =>
        exact ⟨first, numeric first (by simp), [], .inl (.inl rfl), by simp⟩
    | [first, second], _, _, numeric =>
        exact ⟨first, numeric first (by simp), _,
          .inl (.inr ⟨_, rfl, second, numeric second (by simp), rfl⟩), by simp⟩
    | [first, second, third], _, _, numeric =>
        exact ⟨first, numeric first (by simp), _,
          .inr ⟨_, ⟨_, rfl, second, numeric second (by simp), rfl⟩,
            _, ⟨_, rfl, third, numeric third (by simp), rfl⟩, rfl⟩, by simp⟩

theorem forall_isNumber_iff {components : List (List Char)} :
    (∀ component ∈ components, isNumber component = true) ↔
      ∃ numbers, List.Forall₂ Spells numbers components := by
  induction components with
  | nil => simp
  | cons component rest induction =>
      rw [List.forall_mem_cons, induction, isNumber_iff]
      constructor
      · rintro ⟨⟨number, spells⟩, numbers, others⟩
        exact ⟨number :: numbers, .cons spells others⟩
      · rintro ⟨_, _ | ⟨spells, others⟩⟩
        exact ⟨⟨_, spells⟩, _, others⟩

/-- The versions are the texts that denote numbers. -/
theorem accepts_iff_denotes {text : String} :
    accepts text = true ↔ ∃ numbers, Denotes text numbers := by
  rw [accepts_iff]
  constructor
  · rintro ⟨components, joined, numeric, given, short⟩
    obtain ⟨numbers, spells⟩ := forall_isNumber_iff.mp numeric
    have sameLength := spells.length_eq
    refine ⟨numbers, components, joined, spells, ?_, by omega⟩
    rintro rfl
    exact given (List.length_eq_zero_iff.mp sameLength.symm)
  · rintro ⟨numbers, components, joined, spells, given, short⟩
    have sameLength := spells.length_eq
    refine ⟨components, joined, forall_isNumber_iff.mpr ⟨numbers, spells⟩, ?_, by omega⟩
    rintro rfl
    exact given (List.length_eq_zero_iff.mp sameLength)

/-! ### What a version denotes -/

variable {text : String} {numbers : List Nat}

theorem Spells.number_eq {number : Nat} {component : List Char} (spells : Spells number component) :
    number = Nat.ofDigitChars 10 (component.map Text.plainDigit) 0 := by
  rw [spells.1, Nat.ofDigitChars_ten_toDigits]

theorem numbers_eq_of_spells {components : List (List Char)}
    (spells : List.Forall₂ Spells numbers components) :
    numbers =
      components.map fun component =>
        Nat.ofDigitChars 10 (component.map Text.plainDigit) 0 := by
  induction spells with
  | nil => rfl
  | cons first _ induction => rw [List.map_cons, ← first.number_eq, ← induction]

/-- A version denotes one sequence of numbers. -/
theorem Denotes.unique {other : List Nat} (denotes : Denotes text numbers)
    (denotesOther : Denotes text other) : numbers = other := by
  have apart {numbers : List Nat} {components : List (List Char)}
      (joined : text.toList = List.intercalate ['.'] components)
      (spells : List.Forall₂ Spells numbers components) (given : numbers ≠ []) :
      components = text.toList.splitOn '.' := by
    rw [joined, List.splitOn_intercalate '.']
    · intro component member
      exact not_dot_of_isNumber (forall_isNumber_iff.mpr ⟨_, spells⟩ component member)
    · rintro rfl
      cases spells
      exact given rfl
  obtain ⟨components, joined, spells, given, -⟩ := denotes
  obtain ⟨otherComponents, otherJoined, otherSpells, otherGiven, -⟩ := denotesOther
  rw [numbers_eq_of_spells spells, numbers_eq_of_spells otherSpells,
    apart joined spells given, apart otherJoined otherSpells otherGiven]

theorem toList_written (numbers : List Nat) :
    (written numbers).toList = List.intercalate ['.'] (numbers.map (Nat.toDigits 10)) := by
  rw [written, String.toList_intercalate, List.map_map]
  congr 2
  funext number
  simp

theorem map_intercalate {function : Char → Char} {mark : Char} (fixed : function mark = mark)
    (components : List (List Char)) :
    (List.intercalate [mark] components).map function =
      List.intercalate [mark] (components.map (List.map function)) := by
  match components with
  | [] => rfl
  | [component] => simp
  | component :: next :: rest =>
      rw [List.map_cons, List.map_cons, List.intercalate_cons_cons, List.intercalate_cons_cons,
        ← List.map_cons, ← map_intercalate fixed (next :: rest)]
      simp [fixed]

theorem mem_intercalate_of_mem {mark char : Char} {component : List Char}
    {components : List (List Char)} (among : component ∈ components) (member : char ∈ component) :
    char ∈ List.intercalate [mark] components := by
  match components with
  | [only] =>
      obtain rfl := List.mem_singleton.mp among
      simpa using member
  | first :: next :: rest =>
      rw [List.intercalate_cons_cons, List.mem_append, List.mem_append]
      rcases List.mem_cons.mp among with rfl | later
      · exact .inl (.inl member)
      · exact .inr (mem_intercalate_of_mem later member)

theorem of_mem_intercalate {mark char : Char} {components : List (List Char)}
    (member : char ∈ List.intercalate [mark] components) :
    char = mark ∨ ∃ component ∈ components, char ∈ component := by
  match components with
  | [] => simp at member
  | [only] => exact .inr ⟨only, by simp, by simpa using member⟩
  | first :: next :: rest =>
      rw [List.intercalate_cons_cons, List.mem_append, List.mem_append,
        List.mem_singleton] at member
      rcases member with (here | here) | later
      · exact .inr ⟨first, by simp, here⟩
      · exact .inl here
      · rcases of_mem_intercalate later with here | ⟨component, among, inside⟩
        · exact .inl here
        · exact .inr ⟨component, List.mem_cons_of_mem _ among, inside⟩

/-- No surrogate stands in the text of a version. -/
theorem isBroken_of_accepts {reading : Node.Reading} {text : String}
    (accepted : accepts text = true) : reading.isBroken text = false := by
  obtain ⟨components, joined, numeric, -, -⟩ := accepts_iff.mp accepted
  apply Text.holdsSurrogate_of_assigned
  intro char member
  rw [joined] at member
  rcases of_mem_intercalate member with rfl | ⟨component, among, inside⟩
  · decide
  · exact Text.toNat_lt_of_isDecimalDigit
      (isDecimalDigit_of_isNumber (numeric component among) char inside)

theorem map_eq_of_spells {components : List (List Char)}
    (spells : List.Forall₂ Spells numbers components) :
    components.map (List.map Text.plainDigit) = numbers.map (Nat.toDigits 10) := by
  induction spells with
  | nil => rfl
  | cons first _ induction => rw [List.map_cons, List.map_cons, first.1, induction]

/-- With plain digits for all others, a version is what decimal notation writes. -/
theorem Denotes.plain (denotes : Denotes text numbers) : Text.plain text = written numbers := by
  obtain ⟨components, joined, spells, -, -⟩ := denotes
  apply String.toList_inj.mp
  rw [Text.plain, String.toList_ofList, joined, map_intercalate (by decide),
    map_eq_of_spells spells, toList_written]

theorem ascii_written (numbers : List Nat) : ∀ char ∈ (written numbers).toList, char.toNat < 128 := by
  intro char member
  rw [toList_written] at member
  rcases of_mem_intercalate member with rfl | ⟨component, among, inside⟩
  · decide
  · obtain ⟨number, -, rfl⟩ := List.mem_map.mp among
    exact Text.toNat_lt_of_isDigit (Nat.isDigit_of_mem_toDigits (by decide) (by decide) inside)

/-- A version is what decimal notation writes for its numbers just when it has no digits of
other scripts. -/
theorem Denotes.eq_written_iff (denotes : Denotes text numbers) :
    text = written numbers ↔ ∀ char ∈ text.toList, char.toNat < 128 := by
  constructor
  · rintro rfl
    exact ascii_written numbers
  · intro ascii
    rw [← denotes.plain, Text.plain, List.map_congr_left (g := id), List.map_id,
      String.ofList_toList]
    exact fun char member => Text.plainDigit_of_ascii (ascii char member)

/-! ### Other spellings -/

theorem spells_toDigits (number : Nat) : Spells number (Nat.toDigits 10 number) := by
  refine ⟨Text.map_plainDigit_toDigits number, ?_⟩
  obtain ⟨first, rest, shape⟩ := List.exists_cons_of_ne_nil (Nat.toDigits_ne_nil (n := number))
  refine ⟨first, by rw [shape]; rfl, ?_⟩
  exact Nat.isDigit_of_mem_toDigits (b := 10) (n := number) (by decide) (by decide)
    (by rw [shape]; simp)

/-- A number with an Arabic-Indic digit in its last place, if it has more than one. -/
def respelled (number : Nat) : List Char :=
  if number < 10 then Nat.toDigits 10 number
  else Nat.toDigits 10 (number / 10) ++ [Text.arabicDigit (number % 10)]

theorem spells_respelled (number : Nat) : Spells number (respelled number) := by
  have digit : number % 10 < 10 := Nat.mod_lt _ (by decide)
  unfold respelled
  split
  · exact spells_toDigits number
  · rename_i long
    obtain ⟨-, first, leads, plain⟩ := spells_toDigits (number / 10)
    refine ⟨?_, first, ?_, plain⟩
    · rw [List.map_append, Text.map_plainDigit_toDigits, List.map_singleton,
        Text.plainDigit_arabicDigit digit,
        Nat.toDigits_of_base_le (b := 10) (n := number) (by decide) (by omega)]
    · rw [List.head?_append_of_ne_nil _ Nat.toDigits_ne_nil]
      exact leads

theorem denotes_of_spells {spell : Nat → List Char} (spells : ∀ number, Spells number (spell number))
    (given : numbers ≠ []) (short : numbers.length ≤ 3) :
    Denotes (String.ofList (List.intercalate ['.'] (numbers.map spell))) numbers := by
  refine ⟨numbers.map spell, String.toList_ofList, ?_, given, short⟩
  rw [List.forall₂_map_right_iff, List.forall₂_same]
  exact fun number _ => spells number

theorem eq_toDigits_of_spells {number : Nat} {component : List Char} (less : number < 10)
    (spells : Spells number component) : component = Nat.toDigits 10 number := by
  obtain ⟨same, first, leads, plain⟩ := spells
  obtain ⟨rest, rfl⟩ := List.head?_eq_some_iff.mp leads
  rw [← same, List.map_cons, Text.plainDigit_of_isDigit plain]
  rw [Nat.toDigits_of_lt_base less, List.map_cons, List.cons.injEq, List.map_eq_nil_iff] at same
  rw [same.2, List.map_nil]

/-- There is one version for some numbers just when all of them have a single digit. -/
theorem unique_iff (given : numbers ≠ []) (short : numbers.length ≤ 3) :
    (∀ text, Denotes text numbers → text = written numbers) ↔
      ∀ number ∈ numbers, number < 10 := by
  constructor
  · intro unique number member
    by_contra long
    -- A longer number has a second spelling, which differs in its last digit.
    have denotes := denotes_of_spells spells_respelled given short
    have ascii := denotes.eq_written_iff.mp (unique _ denotes)
    have digit : number % 10 < 10 := Nat.mod_lt _ (by decide)
    refine Text.not_ascii_arabicDigit digit (ascii _ ?_)
    rw [String.toList_ofList]
    apply mem_intercalate_of_mem (List.mem_map_of_mem member)
    rw [respelled, if_neg long]
    simp
  · rintro less text ⟨components, joined, spells, -, -⟩
    apply String.toList_inj.mp
    rw [joined, toList_written]
    congr 1
    clear joined given short
    induction spells with
    | nil => rfl
    | cons first _ induction =>
        rw [List.map_cons, ← eq_toDigits_of_spells (less _ (by simp)) first,
          ← induction fun number member => less number (by simp [member])]

end Version

namespace Page

/-- The entries of a page with a text for its version. -/
def withVersion (fields : Fields) (text : String) : Value :=
  .object (Fields.insert fields "version" (.str text))

/-- Whether a page that is valid otherwise is accepted depends on its version alone. -/
theorem grammar_withVersion_iff {reading : Node.Reading} {fields : Fields} {sound : String}
    (otherwise : Grammar reading (withVersion fields sound)) (text : String) :
    Grammar reading (withVersion fields text) ↔ Version.accepts text = true := by
  have hasVersion (text : String) :
      Fields.get? (Fields.insert fields "version" (.str text)) "version" = some (.str text) := by
    rw [Fields.get?_insert, if_pos rfl]
  have others (text : String) {key : String} (other : "version" ≠ key) :
      Fields.get? (Fields.insert fields "version" (.str text)) key = Fields.get? fields key := by
    rw [Fields.get?_insert, if_neg other]
  obtain @⟨_, info, _, root, -, -, hasMeta, readable, infoGrammar, hasRoot, rootGrammar, known⟩ :=
    otherwise
  constructor
  · rintro @⟨_, _, version, _, found, accepted, -, -, -, -, -, -⟩
    obtain rfl : text = version := by simpa [hasVersion] using found
    exact accepted
  · intro accepted
    rw [others sound (by decide)] at hasMeta hasRoot
    refine .page (hasVersion text) accepted ?_ readable infoGrammar ?_ rootGrammar ?_
    · rw [others text (by decide), hasMeta]
    · rw [others text (by decide), hasRoot]
    · simpa only [Fields.mem_keys_insert] using known

/-- A page that is valid otherwise is accepted with a version that the pattern matches, and
these are the texts that denote one, two or three numbers: their components are what decimal
notation writes, the first digit of each plain and those behind it of any script.  Each denotes
one sequence of numbers, and is what decimal notation writes for it just when all its
characters are plain; with plain digits for the others it always is.  No other version denotes
the same numbers just when each of these has a single digit. -/
theorem validate_version_iff {fields : Fields} {sound : String}
    (otherwise : ∃ page, validate (withVersion fields sound) = .ok page) (text : String) :
    ((∃ page, validate (withVersion fields text) = .ok page) ↔
        text.toList ∈ Version.expression) ∧
      ((∃ page, validate (withVersion fields text) = .ok page) ↔
        ∃ numbers, Version.Denotes text numbers) ∧
      ∀ numbers, Version.Denotes text numbers →
        (∀ other, Version.Denotes text other → other = numbers) ∧
        Text.plain text = Version.written numbers ∧
        (text = Version.written numbers ↔ ∀ char ∈ text.toList, char.toNat < 128) ∧
        ((∀ other, Version.Denotes other numbers → other = Version.written numbers) ↔
          ∀ number ∈ numbers, number < 10) := by
  have accepted : (∃ page, validate (withVersion fields text) = .ok page) ↔
      Version.accepts text = true := by
    rw [validate_ok_iff]
    exact grammar_withVersion_iff (validate_ok_iff.mp otherwise) text
  refine ⟨accepted.trans Version.mem_expression_iff.symm,
    accepted.trans Version.accepts_iff_denotes, ?_⟩
  intro numbers denotes
  obtain ⟨-, -, -, given, short⟩ := id denotes
  exact ⟨fun other denotesOther => denotesOther.unique denotes, denotes.plain,
    denotes.eq_written_iff, Version.unique_iff given short⟩

/-- The entries of a page without a version. -/
def unversioned : Fields :=
  [("meta", .object []), ("root", .object [("type", "Box"), ("params", .object [])])]

theorem validate_version_iff_unversioned :
    (∃ page, validate (withVersion unversioned "1") = .ok page) ∧
      (∃ page, validate (withVersion unversioned "1٠.0") = .ok page) ∧
      Version.Denotes "1٠.0" [10, 0] ∧ Text.plain "1٠.0" = "10.0" ∧
      "1٠.0" ≠ Version.written [10, 0] := by
  have otherwise : ∃ page, validate (withVersion unversioned "1") = .ok page := ⟨_, rfl⟩
  obtain ⟨-, accepted, denoted⟩ := validate_version_iff otherwise "1٠.0"
  have denotes : Version.Denotes "1٠.0" [10, 0] :=
    ⟨[['1', '٠'], ['0']], by decide,
      .cons ⟨by decide, '1', rfl, rfl⟩ (.cons ⟨by decide, '0', rfl, rfl⟩ .nil), by simp,
      by simp⟩
  obtain ⟨-, plain, same, -⟩ := denoted _ denotes
  refine ⟨otherwise, accepted.mpr ⟨_, denotes⟩, denotes, by rw [plain]; decide, ?_⟩
  rw [Ne, same]
  exact fun ascii => absurd (ascii '٠' (by simp)) (by decide)

/-- A version with a digit of another script is accepted, although decimal notation writes it
for no numbers, and so there are two versions for ten. -/
theorem foreignVersion_accepted :
    (∃ page, validate (withVersion unversioned "1٠") = .ok page) ∧
      (∃ page, validate (withVersion unversioned "10") = .ok page) ∧
      (¬ ∃ numbers, "1٠" = Version.written numbers) ∧
      Version.Denotes "1٠" [10] ∧ Version.Denotes "10" [10] ∧ "1٠" ≠ "10" := by
  refine ⟨⟨_, rfl⟩, ⟨_, rfl⟩, ?_, ?_, ?_, by decide⟩
  · rintro ⟨numbers, same⟩
    have ascii := Version.ascii_written numbers
    rw [← same] at ascii
    exact absurd (ascii '٠' (by simp)) (by decide)
  · exact ⟨[['1', '٠']], by decide, .cons ⟨by decide, '1', rfl, rfl⟩ .nil, by simp, by simp⟩
  · exact ⟨[['1', '0']], by decide, .cons ⟨by decide, '1', rfl, rfl⟩ .nil, by simp, by simp⟩

end Page

end PageComposer
