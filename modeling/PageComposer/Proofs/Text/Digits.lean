import Mathlib.Data.List.Basic
import PageComposer.Text.DecimalDigit

/-!
# Numbers in the digits of any script

`plainDigit` writes a decimal digit of any script as one of the digits 0 to 9 and leaves other
characters alone.  What decimal notation writes for a number has no zero in front, and a text
of plain digits without one is what decimal notation writes for the number that it spells.
-/

namespace PageComposer.Text

/-! ### Character tables -/

theorem exists_of_inRanges {ranges : List (Nat × Nat)} {char : Char}
    (inside : inRanges ranges char = true) :
    ∃ run ∈ ranges, run.1 ≤ char.toNat ∧ char.toNat ≤ run.2 := by
  induction ranges with
  | nil => simp [inRanges] at inside
  | cons run rest induction =>
      obtain ⟨first, last⟩ := run
      rw [inRanges] at inside
      split at inside
      · simp at inside
      · rename_i reached
        rcases Bool.or_eq_true_iff.mp inside with here | later
        · exact ⟨(first, last), by simp, by omega, by simpa using here⟩
        · obtain ⟨other, member, bounds⟩ := induction later
          exact ⟨other, by simp [member], bounds⟩

/-- A table in ascending order finds every character of its runs. -/
theorem inRanges_of_mem {ranges : List (Nat × Nat)} {run : Nat × Nat} {char : Char}
    (ascending : ranges.Pairwise fun left right => left.1 ≤ right.1) (member : run ∈ ranges)
    (atLeast : run.1 ≤ char.toNat) (atMost : char.toNat ≤ run.2) :
    inRanges ranges char = true := by
  induction ranges with
  | nil => simp at member
  | cons head rest induction =>
      obtain ⟨first, last⟩ := head
      obtain ⟨before, ascendingRest⟩ := List.pairwise_cons.mp ascending
      rcases List.mem_cons.mp member with rfl | later
      · simp only at atLeast atMost
        rw [inRanges, if_neg (by omega)]
        simp [atMost]
      · have reached := before run later
        simp only at reached
        rw [inRanges, if_neg (by omega), induction ascendingRest later, Bool.or_true]

/-! ### Digits -/

/-- The value of a decimal digit: every run of digits counts from zero to nine, some of them
several times. -/
def decimalValue? (char : Char) : Option Nat :=
  (decimalDigitRanges.find? fun run => run.1 ≤ char.toNat && char.toNat ≤ run.2).map
    fun run => (char.toNat - run.1) % 10

theorem isSome_decimalValue?_iff {char : Char} :
    (decimalValue? char).isSome ↔ isDecimalDigit char = true := by
  have ascending : decimalDigitRanges.Pairwise fun left right => left.1 ≤ right.1 := by
    decide
  rw [decimalValue?, Option.isSome_map, List.find?_isSome]
  constructor
  · rintro ⟨run, member, bounds⟩
    simp only [Bool.and_eq_true, decide_eq_true_eq] at bounds
    exact inRanges_of_mem ascending member bounds.1 bounds.2
  · intro digit
    obtain ⟨run, member, atLeast, atMost⟩ := exists_of_inRanges digit
    exact ⟨run, member, by simp [atLeast, atMost]⟩

theorem decimalValue?_lt {char : Char} {value : Nat} (digit : decimalValue? char = some value) :
    value < 10 := by
  obtain ⟨run, -, rfl⟩ := Option.map_eq_some_iff.mp digit
  exact Nat.mod_lt _ (by decide)

/-- A decimal digit of any script as the digit of the same value among 0 to 9. -/
def plainDigit (char : Char) : Char :=
  match decimalValue? char with
  | some value => value.digitChar
  | none => char

/-- A text with plain digits in place of all others. -/
def plain (text : String) : String := String.ofList (text.toList.map plainDigit)

theorem decimalValue?_of_isDigit {char : Char} (digit : char.isDigit = true) :
    decimalValue? char = some (char.toNat - 48) := by
  obtain ⟨atLeast, atMost⟩ := Char.isDigit_iff_toNat.mp digit
  have atLeast : 48 ≤ char.toNat := atLeast
  have atMost : char.toNat ≤ 57 := atMost
  have found : (decimalDigitRanges.find? fun run => run.1 ≤ char.toNat && char.toNat ≤ run.2) =
      some (0x0030, 0x0039) := by
    rw [decimalDigitRanges, List.find?_cons_of_pos (by simp [atLeast, atMost])]
  rw [decimalValue?, found, Option.map_some, Option.some.injEq]
  exact Nat.mod_eq_of_lt (by omega)

theorem digitChar_of_isDigit {char : Char} (digit : char.isDigit = true) :
    (char.toNat - 48).digitChar = char := by
  obtain ⟨atLeast, atMost⟩ := Char.isDigit_iff_toNat.mp digit
  have atLeast : 48 ≤ char.toNat := atLeast
  have atMost : char.toNat ≤ 57 := atMost
  apply Char.toNat_inj.mp
  rw [Nat.toNat_digitChar_of_lt_ten (by omega)]
  omega

/-- Plain digits stay as they are. -/
theorem plainDigit_of_isDigit {char : Char} (digit : char.isDigit = true) :
    plainDigit char = char := by
  rw [plainDigit, decimalValue?_of_isDigit digit]
  exact digitChar_of_isDigit digit

theorem isDigit_plainDigit {char : Char} (digit : isDecimalDigit char = true) :
    (plainDigit char).isDigit = true := by
  obtain ⟨value, found⟩ := Option.isSome_iff_exists.mp (isSome_decimalValue?_iff.mpr digit)
  rw [plainDigit, found]
  simp [Nat.isDigit_digitChar, decimalValue?_lt found]

theorem isDecimalDigit_of_plainDigit {char : Char} (digit : (plainDigit char).isDigit = true) :
    isDecimalDigit char = true := by
  rw [← isSome_decimalValue?_iff]
  unfold plainDigit at digit
  split at digit
  · rename_i value found
    simp [found]
  · rename_i missing
    simp [decimalValue?_of_isDigit digit] at missing

theorem isDigit_of_ascii {char : Char} (digit : isDecimalDigit char = true)
    (ascii : char.toNat < 128) : char.isDigit = true := by
  obtain ⟨run, member, atLeast, atMost⟩ := exists_of_inRanges digit
  have first : ∀ run ∈ decimalDigitRanges, run.1 < 128 → run = (0x0030, 0x0039) := by decide
  obtain rfl := first run member (by omega)
  exact Char.isDigit_iff_toNat.mpr ⟨atLeast, atMost⟩

/-- Digits are assigned characters. -/
theorem toNat_lt_of_isDecimalDigit {char : Char} (digit : isDecimalDigit char = true) :
    char.toNat < 0x40000 := by
  obtain ⟨run, member, -, atMost⟩ := exists_of_inRanges digit
  have bounded : ∀ run ∈ decimalDigitRanges, run.2 < 0x40000 := by decide
  exact Nat.lt_of_le_of_lt atMost (bounded run member)

theorem plainDigit_of_ascii {char : Char} (ascii : char.toNat < 128) : plainDigit char = char := by
  by_cases digit : isDecimalDigit char = true
  · exact plainDigit_of_isDigit (isDigit_of_ascii digit ascii)
  · rw [← isSome_decimalValue?_iff, Bool.not_eq_true, Option.isSome_eq_false_iff,
      Option.isNone_iff_eq_none] at digit
    rw [plainDigit, digit]

theorem toNat_lt_of_isDigit {char : Char} (digit : char.isDigit = true) : char.toNat < 128 := by
  have atMost : char.toNat ≤ 57 := (Char.isDigit_iff_toNat.mp digit).2
  omega

/-- The Arabic-Indic digit of a value. -/
def arabicDigit (value : Nat) : Char := Char.ofNat (0x0660 + value)

theorem plainDigit_arabicDigit {value : Nat} (less : value < 10) :
    plainDigit (arabicDigit value) = value.digitChar := by
  have each : ∀ value < 10, plainDigit (arabicDigit value) = value.digitChar := by decide
  exact each value less

theorem not_ascii_arabicDigit {value : Nat} (less : value < 10) :
    ¬ (arabicDigit value).toNat < 128 := by
  have each : ∀ value < 10, ¬ (arabicDigit value).toNat < 128 := by decide
  exact each value less

/-! ### Decimal notation -/

theorem map_plainDigit_toDigits (number : Nat) :
    (Nat.toDigits 10 number).map plainDigit = Nat.toDigits 10 number := by
  rw [List.map_congr_left (g := id), List.map_id]
  intro char member
  exact plainDigit_of_isDigit (Nat.isDigit_of_mem_toDigits (by decide) (by decide) member)

/-- Further digits behind a number without a zero in front. -/
theorem toDigits_ofDigitChars {number : Nat} {chars : List Char} (positive : 0 < number)
    (digits : ∀ char ∈ chars, char.isDigit = true) :
    Nat.toDigits 10 (Nat.ofDigitChars 10 chars number) = Nat.toDigits 10 number ++ chars := by
  induction chars generalizing number with
  | nil => simp
  | cons char rest induction =>
      have digit := digits char (by simp)
      obtain ⟨atLeast, atMost⟩ := Char.isDigit_iff_toNat.mp digit
      have atMost : char.toNat ≤ 57 := atMost
      have less : char.toNat - '0'.toNat < 10 := by
        change char.toNat - 48 < 10
        omega
      have last : Nat.toDigits 10 (char.toNat - '0'.toNat) = [char] := by
        rw [Nat.toDigits_of_lt_base less]
        exact congrArg (fun digit => [digit]) (digitChar_of_isDigit digit)
      rw [Nat.ofDigitChars_cons,
        induction (by omega) (fun other member => digits other (by simp [member])),
        ← Nat.toDigits_append_toDigits (by decide) positive less, last, List.append_assoc]
      rfl

/-- No number but zero is written with a zero in front. -/
theorem head?_toDigits {number : Nat} (positive : 0 < number) :
    (Nat.toDigits 10 number).head? ≠ some '0' := by
  induction number using Nat.strongRecOn with
  | ind number induction =>
      by_cases short : number < 10
      · rw [Nat.toDigits_of_lt_base short]
        simp only [List.head?_cons, ne_eq, Option.some.injEq, Nat.digitChar_eq_zero]
        omega
      · have shorter := induction (number / 10) (by omega) (by omega)
        rw [Nat.toDigits_of_base_le (by decide) (by omega),
          List.head?_append_of_ne_nil _ Nat.toDigits_ne_nil]
        exact shorter

end PageComposer.Text
