import Mathlib.Data.List.Basic
import PageComposer.Proofs.Text.Digits
import PageComposer.Text.Blank
import PageComposer.Text.LowerCase

/-!
# Lower case and its context

Small letters stay as they are, so a text that was lowered once is not changed again, and no
character but a letter comes about (`mem_loweredAt`).  `lowerWithin` lowers a part of a text:
what becomes of it depends on the rest of the text only through its capital sigmas.
`isSettled` says that none of them does depend on it.  A settled text stands in lower case
within every text that it stands in; for any other one there is a longer text in which it does
not (`not_infix_lowerAfter`).
-/

namespace PageComposer.Text

/-! ### Small letters -/

namespace CaseRun

def holds (run : CaseRun) (code : Nat) : Bool :=
  run.first ≤ code && code ≤ run.last && (code - run.first) % run.stride == 0

/-- The code of the small letter of a capital. -/
def small (run : CaseRun) (code : Nat) : Nat := ((code : Int) + run.offset).toNat

/-- No small letter of a run is in another run: all stand before it or behind it, or they take
the places that it leaves out. -/
def misses (run other : CaseRun) : Bool :=
  (run.small run.last).blt other.first || other.last.blt (run.small run.first) ||
    ((run.stride == 2 || run.first == run.last) && other.stride == 2 &&
      (run.small run.first + other.first) % 2 == 1)

/-- The small letters of a run are characters, none of them before the letter a. -/
def lettered (run : CaseRun) : Bool :=
  97 ≤ run.small run.first &&
    (run.small run.last < 0xD800 ||
      0xDFFF < run.small run.first && run.small run.last < 0x110000)

variable {run other : CaseRun} {code : Nat}

theorem holds_iff :
    run.holds code = true ↔
      run.first ≤ code ∧ code ≤ run.last ∧ (code - run.first) % run.stride = 0 := by
  simp [holds, and_assoc]

theorem small_bounds (held : run.holds code = true) :
    run.small run.first ≤ run.small code ∧ run.small code ≤ run.small run.last := by
  obtain ⟨atLeast, atMost, -⟩ := holds_iff.mp held
  unfold small
  omega

theorem holds_small (letters : run.lettered = true) (apart : run.misses other = true)
    (held : run.holds code = true) : other.holds (run.small code) = false := by
  have bounds := small_bounds held
  obtain ⟨atLeast, atMost, step⟩ := holds_iff.mp held
  rw [Bool.eq_false_iff, Ne, holds_iff]
  rintro ⟨otherFirst, otherLast, otherStep⟩
  simp only [misses, Bool.or_eq_true, Nat.blt_eq, Bool.and_eq_true, beq_iff_eq] at apart
  -- The runs are apart as intervals, or each takes the places between those of the other.
  rcases apart with (before | behind) | ⟨⟨two | single, otherTwo⟩, odd⟩
  · omega
  · omega
  · rw [two] at step
    rw [otherTwo] at otherStep
    simp only [lettered, Bool.and_eq_true, decide_eq_true_eq] at letters
    have start := letters.1
    unfold small at *
    omega
  · obtain rfl : code = run.first := by omega
    rw [otherTwo] at otherStep
    omega

theorem isValidChar_small (letters : run.lettered = true) (held : run.holds code = true) :
    97 ≤ run.small code ∧ (run.small code).isValidChar := by
  have bounds := small_bounds held
  simp only [lettered, Bool.and_eq_true, decide_eq_true_eq, Bool.or_eq_true] at letters
  refine ⟨by omega, ?_⟩
  rw [Nat.isValidChar]
  omega

end CaseRun

theorem lettered_capitalRuns : (capitalRuns.all fun run => run.lettered) = true := by
  decide +kernel

/-- What no small letter is: the capital I with a dot, a blank, or a capital. -/
def shunned : List CaseRun :=
  ⟨0x0130, 0x0130, 1, 0⟩ :: (blankRanges.map fun range => ⟨range.1, range.2, 1, 0⟩) ++
    capitalRuns

theorem misses_shunned :
    (capitalRuns.all fun run => shunned.all fun other => run.misses other) = true := by
  decide +kernel

/-- A character that lower case leaves alone wherever it stands. -/
def IsSmall (char : Char) : Prop := simpleLower char = char ∧ char ≠ 'İ' ∧ char ≠ 'Σ'

instance : DecidablePred IsSmall := fun char =>
  inferInstanceAs (Decidable (simpleLower char = char ∧ char ≠ 'İ' ∧ char ≠ 'Σ'))

section

variable {char : Char} {run : CaseRun}

theorem simpleLower_eq_self (lowercase : ∀ run ∈ capitalRuns, run.holds char.toNat = false) :
    simpleLower char = char := by
  have missing : (capitalRuns.find? fun run => run.holds char.toNat) = none := by
    rw [List.find?_eq_none]
    intro run member
    rw [lowercase run member]
    simp
  unfold CaseRun.holds at missing
  simp only [simpleLower, missing]

theorem simpleLower_eq_ofNat (found : capitalRuns.find? (CaseRun.holds · char.toNat) = some run) :
    simpleLower char = Char.ofNat (run.small char.toNat) := by
  unfold CaseRun.holds at found
  simp only [simpleLower, found]
  rfl

theorem isBlank_of_not_shunned (outside : ∀ run ∈ shunned, run.holds char.toNat = false) :
    isBlank char = false := by
  rw [Bool.eq_false_iff]
  intro blank
  obtain ⟨range, among, atLeast, atMost⟩ := exists_of_inRanges blank
  have apart := outside ⟨range.1, range.2, 1, 0⟩ (by
    rw [shunned, List.mem_append, List.mem_cons, List.mem_map]
    exact .inl (.inr ⟨range, among, rfl⟩))
  rw [Bool.eq_false_iff, Ne, CaseRun.holds_iff] at apart
  exact apart ⟨atLeast, atMost, Nat.mod_one _⟩

theorem isSmall_of_not_shunned (outside : ∀ run ∈ shunned, run.holds char.toNat = false) :
    IsSmall char := by
  have own : simpleLower char = char := by
    apply simpleLower_eq_self
    intro run member
    exact outside run (List.mem_append_right _ member)
  refine ⟨own, ?_, ?_⟩
  · rintro rfl
    exact absurd (outside ⟨0x0130, 0x0130, 1, 0⟩ (by simp [shunned])) (by decide)
  · rintro rfl
    exact absurd own (by decide)

/-- A character is left alone or is a capital, whose small letter is a letter. -/
theorem simpleLower_cases (char : Char) :
    simpleLower char = char ∨
      97 ≤ (simpleLower char).toNat ∧ isBlank (simpleLower char) = false ∧
        IsSmall (simpleLower char) := by
  cases found : capitalRuns.find? (CaseRun.holds · char.toNat) with
  | none =>
      left
      apply simpleLower_eq_self
      simpa using found
  | some run =>
      right
      have member := List.mem_of_find?_eq_some found
      have held : run.holds char.toNat = true := by
        simpa using List.find?_some found
      have letters := List.all_eq_true.mp lettered_capitalRuns run member
      obtain ⟨letter, valid⟩ := CaseRun.isValidChar_small letters held
      have code : (simpleLower char).toNat = run.small char.toNat := by
        rw [simpleLower_eq_ofNat found, Char.ofNat, dif_pos valid]
        rfl
      have outside : ∀ other ∈ shunned, other.holds (simpleLower char).toNat = false := by
        intro other among
        have apart := List.all_eq_true.mp misses_shunned run member
        rw [code]
        exact CaseRun.holds_small letters (List.all_eq_true.mp apart other among) held
      exact ⟨code ▸ letter, isBlank_of_not_shunned outside, isSmall_of_not_shunned outside⟩

end

/-! ### Lower case -/

/-- What becomes of a character, given those before it, nearest first, and those behind it. -/
def loweredAt (before : List Char) (char : Char) (behind : List Char) : List Char :=
  if char = 'İ' then ['i', '\u0307']
  else if char = 'Σ' then
    [if meetsCased before && !meetsCased behind then 'ς' else 'σ']
  else [simpleLower char]

variable {before behind more further chars part : List Char} {char lowered : Char}

theorem lowerAfter_cons (before : List Char) (char : Char) (rest : List Char) :
    lowerAfter before (char :: rest) =
      loweredAt before char rest ++ lowerAfter (char :: before) rest := by
  rw [lowerAfter, loweredAt]
  split
  · rename_i ascii
    have notDotted : char ≠ 'İ' := by
      rintro rfl
      exact absurd ascii (by decide)
    have notSigma : char ≠ 'Σ' := by
      rintro rfl
      exact absurd ascii (by decide)
    rw [if_neg notDotted, if_neg notSigma]
  · rfl

theorem loweredAt_ne_nil : loweredAt before char behind ≠ [] := by
  unfold loweredAt
  split
  · simp
  · split <;> simp

theorem loweredAt_of_isSmall (small : IsSmall char) : loweredAt before char behind = [char] := by
  obtain ⟨own, notDotted, notSigma⟩ := small
  rw [loweredAt, if_neg notDotted, if_neg notSigma, own]

/-- A character is lowered to small ones, and to no other than itself but letters. -/
theorem mem_loweredAt (member : lowered ∈ loweredAt before char behind) :
    IsSmall lowered ∧ (lowered = char ∨ 97 ≤ lowered.toNat ∧ isBlank lowered = false) := by
  unfold loweredAt at member
  split at member
  · rcases List.mem_pair.mp member with rfl | rfl <;>
      exact ⟨by decide, .inr (by decide)⟩
  · rename_i notDotted
    split at member
    · rw [List.mem_singleton] at member
      split at member <;> subst member <;> exact ⟨by decide, .inr (by decide)⟩
    · rename_i notSigma
      obtain rfl := List.mem_singleton.mp member
      rcases simpleLower_cases char with own | ⟨letter, visible, small⟩
      · rw [own]
        exact ⟨⟨own, notDotted, notSigma⟩, .inl rfl⟩
      · exact ⟨small, .inr ⟨letter, visible⟩⟩

theorem mem_lowerAfter (member : lowered ∈ lowerAfter before chars) :
    IsSmall lowered ∧ (lowered ∈ chars ∨ 97 ≤ lowered.toNat ∧ isBlank lowered = false) := by
  induction chars generalizing before with
  | nil => simp [lowerAfter] at member
  | cons char rest induction =>
      rw [lowerAfter_cons, List.mem_append] at member
      rcases member with here | later
      · obtain ⟨small, rfl | letter⟩ := mem_loweredAt here
        · exact ⟨small, .inl List.mem_cons_self⟩
        · exact ⟨small, .inr letter⟩
      · obtain ⟨small, among | letter⟩ := induction later
        · exact ⟨small, .inl (List.mem_cons_of_mem _ among)⟩
        · exact ⟨small, .inr letter⟩

theorem lowerAfter_eq_self (small : ∀ char ∈ chars, IsSmall char) :
    lowerAfter before chars = chars := by
  induction chars generalizing before with
  | nil => rfl
  | cons char rest induction =>
      rw [List.forall_mem_cons] at small
      rw [lowerAfter_cons, loweredAt_of_isSmall small.1, induction small.2]
      rfl

theorem lowerAfter_eq_nil_iff : lowerAfter before chars = [] ↔ chars = [] := by
  cases chars with
  | nil => simp [lowerAfter]
  | cons char rest => simp [lowerAfter_cons, loweredAt_ne_nil]

theorem toList_lower (text : String) : (lower text).toList = lowerAfter [] text.toList :=
  String.toList_ofList

/-- What was lowered once stays as it is. -/
theorem lower_lower (text : String) : lower (lower text) = lower text := by
  apply String.toList_inj.mp
  rw [toList_lower, toList_lower]
  exact lowerAfter_eq_self fun char member => (mem_lowerAfter member).1

/-! ### A part of a text -/

/-- Whether the first character that is not case-ignorable is a cased one, if there is one. -/
def nearest (chars : List Char) : Option Bool :=
  (chars.find? fun char => !inRanges caseIgnorableRanges char).map (inRanges casedRanges)

theorem nearest_append (chars more : List Char) :
    nearest (chars ++ more) = (nearest chars).or (nearest more) := by
  rw [nearest, List.find?_append, Option.map_or]
  rfl

theorem meetsCased_iff : meetsCased chars = true ↔ nearest chars = some true := by
  induction chars with
  | nil => simp [meetsCased, nearest]
  | cons char rest induction =>
      cases ignored : inRanges caseIgnorableRanges char with
      | true => simpa [meetsCased, nearest, ignored] using induction
      | false => simp [meetsCased, nearest, ignored]

/-- Lower a part of a text, given the characters before it, nearest first, and those behind
it. -/
def lowerWithin (before behind : List Char) : List Char → List Char
  | [] => []
  | char :: rest =>
      loweredAt before char (rest ++ behind) ++ lowerWithin (char :: before) behind rest

theorem lowerAfter_append (before chars behind : List Char) :
    lowerAfter before (chars ++ behind) =
      lowerWithin before behind chars ++ lowerAfter (chars.reverse ++ before) behind := by
  induction chars generalizing before with
  | nil => rfl
  | cons char rest induction =>
      rw [List.cons_append, lowerAfter_cons, induction, lowerWithin, List.append_assoc,
        List.reverse_cons, List.append_assoc]
      rfl

theorem lowerWithin_nil (before chars : List Char) :
    lowerWithin before [] chars = lowerAfter before chars := by
  have whole := lowerAfter_append before chars []
  rw [List.append_nil, lowerAfter, List.append_nil] at whole
  exact whole.symm

/-! ### Settled texts -/

/-- The characters around a capital sigma, those before it nearest first, tell what it becomes
whatever stands around them. -/
def settledAt (before behind : List Char) : Bool :=
  nearest before == some false || nearest behind == some true ||
    (nearest before).isSome && (nearest behind).isSome

def settledAfter (before : List Char) : List Char → Bool
  | [] => true
  | char :: rest =>
      (char != 'Σ' || settledAt before rest) && settledAfter (char :: before) rest

/-- What a text is in lower case does not depend on the text that it is a part of. -/
def isSettled (text : String) : Bool := settledAfter [] text.toList

theorem loweredAt_sigma :
    loweredAt before 'Σ' behind =
      [if nearest before = some true ∧ nearest behind ≠ some true then 'ς' else 'σ'] := by
  have notDotted : 'Σ' ≠ 'İ' := by decide
  rw [loweredAt, if_neg notDotted, if_pos rfl]
  simp only [Bool.and_eq_true, Bool.not_eq_true', ← Bool.not_eq_true, meetsCased_iff, ne_eq]

theorem loweredAt_of_ne (other : char ≠ 'Σ') (before behind more further : List Char) :
    loweredAt before char behind = loweredAt more char further := by
  rw [loweredAt, loweredAt, if_neg other, if_neg other]

theorem settledAfter_of_not_mem (none : 'Σ' ∉ chars) : settledAfter before chars = true := by
  induction chars generalizing before with
  | nil => rfl
  | cons char rest induction =>
      rw [List.mem_cons, not_or] at none
      rw [settledAfter, induction none.2]
      simpa using .inl (Ne.symm none.1)

theorem loweredAt_of_settledAt (settled : settledAt before behind = true)
    (more further : List Char) :
    loweredAt (before ++ more) 'Σ' (behind ++ further) = loweredAt before 'Σ' behind := by
  rw [loweredAt_sigma, loweredAt_sigma, nearest_append, nearest_append]
  rw [settledAt] at settled
  generalize nearest before = left, nearest behind = right at settled
  rcases left with _ | _ | _ <;> rcases right with _ | _ | _ <;> simp at settled ⊢

/-- A settled part of a text is lowered as on its own. -/
theorem lowerWithin_of_settledAfter (settled : settledAfter before chars = true)
    (more further : List Char) :
    lowerWithin (before ++ more) further chars = lowerAfter before chars := by
  induction chars generalizing before with
  | nil => rfl
  | cons char rest induction =>
      rw [settledAfter, Bool.and_eq_true] at settled
      rw [lowerWithin, lowerAfter_cons, ← List.cons_append, induction settled.2]
      congr 1
      by_cases sigma : char = 'Σ'
      · subst sigma
        exact loweredAt_of_settledAt (by simpa using settled.1) more further
      · exact loweredAt_of_ne sigma _ _ _ _

/-- A settled text stands in lower case within every text that it stands in. -/
theorem infix_lowerAfter (settled : settledAfter [] part = true) (inside : part <:+: chars) :
    lowerAfter [] part <:+: lowerAfter [] chars := by
  obtain ⟨front, back, rfl⟩ := inside
  rw [List.append_assoc, lowerAfter_append, lowerAfter_append, List.append_nil,
    ← List.nil_append front.reverse, lowerWithin_of_settledAfter settled, ← List.append_assoc]
  exact ⟨_, _, rfl⟩

theorem exists_of_settledAfter_eq_false (unsettled : settledAfter before chars = false) :
    ∃ front back, chars = front ++ 'Σ' :: back ∧ settledAt (front.reverse ++ before) back = false := by
  induction chars generalizing before with
  | nil => cases unsettled
  | cons char rest induction =>
      by_cases here : char = 'Σ' ∧ settledAt before rest = false
      · obtain ⟨rfl, dangling⟩ := here
        exact ⟨[], rest, rfl, dangling⟩
      · have later : settledAfter (char :: before) rest = false := by
          rw [settledAfter, Bool.and_eq_false_iff] at unsettled
          refine unsettled.resolve_left fun first => here ?_
          simpa using first
        obtain ⟨front, back, rfl, dangling⟩ := induction later
        refine ⟨char :: front, back, rfl, ?_⟩
        rwa [List.reverse_cons, List.append_assoc]

section

variable {mark : Char}
  (fewer : ∀ before char behind,
    (loweredAt (before ++ more) char (behind ++ further)).count mark ≤
      (loweredAt before char behind).count mark)

include fewer

theorem count_lowerWithin_le (before chars : List Char) :
    (lowerWithin (before ++ more) further chars).count mark ≤
      (lowerAfter before chars).count mark := by
  induction chars generalizing before with
  | nil => exact Nat.le_refl _
  | cons char rest induction =>
      rw [lowerWithin, lowerAfter_cons, List.count_append, List.count_append]
      exact Nat.add_le_add (fewer before char rest) (induction (char :: before))

/-- A letter gets rarer when one of the characters that become it becomes another. -/
theorem count_lowerWithin_lt (before front back : List Char)
    (changes : (loweredAt (front.reverse ++ before ++ more) 'Σ' (back ++ further)).count mark <
      (loweredAt (front.reverse ++ before) 'Σ' back).count mark) :
    (lowerWithin (before ++ more) further (front ++ 'Σ' :: back)).count mark <
      (lowerAfter before (front ++ 'Σ' :: back)).count mark := by
  -- The count drops at the sigma and grows nowhere else.
  induction front generalizing before with
  | nil =>
      rw [List.nil_append, lowerWithin, lowerAfter_cons, List.count_append, List.count_append]
      exact Nat.add_lt_add_of_lt_of_le changes (count_lowerWithin_le fewer ('Σ' :: before) back)
  | cons char rest induction =>
      rw [List.cons_append, lowerWithin, lowerAfter_cons, List.count_append, List.count_append]
      rw [List.reverse_cons, List.append_assoc _ [char] before] at changes
      exact Nat.add_lt_add_of_le_of_lt (fewer before char _) (induction (char :: before) changes)

end

theorem nearest_a : nearest ['a'] = some true := by decide

theorem isSmall_a : IsSmall 'a' := by decide

/-- With a letter in front no sigma in the middle of a word comes about. -/
theorem count_middle_le (before : List Char) (char : Char) (behind : List Char) :
    (loweredAt (before ++ ['a']) char (behind ++ [])).count 'σ' ≤
      (loweredAt before char behind).count 'σ' := by
  by_cases sigma : char = 'Σ'
  · subst sigma
    rw [List.append_nil, loweredAt_sigma, loweredAt_sigma, nearest_append, nearest_a]
    rcases nearest before with _ | _ | _
    · by_cases final : nearest behind = some true <;> simp [final]
    · simp
    · simp
  · exact Nat.le_of_eq (congrArg (List.count 'σ') (loweredAt_of_ne sigma _ _ _ _))

/-- With a letter behind it no sigma at the end of a word comes about. -/
theorem count_final_le (before : List Char) (char : Char) (behind : List Char) :
    (loweredAt (before ++ []) char (behind ++ ['a'])).count 'ς' ≤
      (loweredAt before char behind).count 'ς' := by
  by_cases sigma : char = 'Σ'
  · subst sigma
    rw [List.append_nil, loweredAt_sigma, loweredAt_sigma, nearest_append, nearest_a]
    rcases nearest behind with _ | _ | _
    · by_cases cased : nearest before = some true <;> simp [cased]
    · simp
    · simp
  · exact Nat.le_of_eq (congrArg (List.count 'ς') (loweredAt_of_ne sigma _ _ _ _))

/-- A sigma that is in the middle of a word on its own can be at the end of one behind a
letter. -/
theorem not_infix_lowerAfter_cons {front back : List Char} (leading : nearest front.reverse = none)
    (ending : nearest back ≠ some true) :
    ¬ lowerAfter [] (front ++ 'Σ' :: back) <:+: lowerAfter [] ('a' :: (front ++ 'Σ' :: back)) := by
  intro inside
  have fewer : (lowerWithin ['a'] [] (front ++ 'Σ' :: back)).count 'σ' <
      (lowerAfter [] (front ++ 'Σ' :: back)).count 'σ' := by
    apply count_lowerWithin_lt count_middle_le []
    rw [List.append_nil, List.append_nil, loweredAt_sigma, loweredAt_sigma, nearest_append,
      leading, nearest_a]
    simp [ending]
  have most := inside.sublist.count_le 'σ'
  rw [lowerAfter_cons, loweredAt_of_isSmall isSmall_a, List.count_append,
    ← lowerWithin_nil ['a']] at most
  have letter : ['a'].count 'σ' = 0 := by decide
  omega

/-- A sigma that is at the end of a word on its own can be in the middle of one before a
letter. -/
theorem not_infix_lowerAfter_append {front back : List Char}
    (cased : nearest front.reverse = some true) (trailing : nearest back = none) :
    ¬ lowerAfter [] (front ++ 'Σ' :: back) <:+:
      lowerAfter [] (front ++ 'Σ' :: back ++ ['a']) := by
  intro inside
  have fewer : (lowerWithin [] ['a'] (front ++ 'Σ' :: back)).count 'ς' <
      (lowerAfter [] (front ++ 'Σ' :: back)).count 'ς' := by
    apply count_lowerWithin_lt count_final_le []
    rw [List.append_nil, List.append_nil, loweredAt_sigma, loweredAt_sigma, nearest_append,
      trailing, nearest_a]
    simp [cased]
  have most := inside.sublist.count_le 'ς'
  rw [lowerAfter_append _ _ ['a'], lowerAfter_cons _ 'a', loweredAt_of_isSmall isSmall_a,
    lowerAfter, List.count_append] at most
  have letter : (['a'] ++ []).count 'ς' = 0 := by decide
  omega

/-- A text that is not settled does not stand in lower case within every text that it stands
in. -/
theorem exists_not_infix_lowerAfter (unsettled : settledAfter [] part = false) :
    ∃ chars, part <:+: chars ∧ ¬ lowerAfter [] part <:+: lowerAfter [] chars := by
  obtain ⟨front, back, rfl, dangling⟩ := exists_of_settledAfter_eq_false unsettled
  rw [List.append_nil, settledAt] at dangling
  simp only [Bool.or_eq_false_iff, beq_eq_false_iff_ne, ne_eq, Bool.and_eq_false_iff,
    Option.isSome_eq_false_iff, Option.isNone_iff_eq_none] at dangling
  obtain ⟨⟨notUncased, ending⟩, missing⟩ := dangling
  -- The sigma is open to what stands in front of the text or to what stands behind it.
  by_cases leading : nearest front.reverse = none
  · exact ⟨_, List.infix_cons (List.infix_refl _), not_infix_lowerAfter_cons leading ending⟩
  · obtain ⟨_ | _, met⟩ := Option.ne_none_iff_exists'.mp leading
    · exact absurd met notUncased
    · exact ⟨_, List.infix_append_left,
        not_infix_lowerAfter_append met (missing.resolve_left leading)⟩

end PageComposer.Text
