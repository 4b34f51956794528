import Mathlib.Data.List.DropRight
import PageComposer.Proofs.Text.Casing

/-!
# Texts without blanks at their ends

Stripping takes blanks off both ends of a text and nothing else, and does nothing to a text
that is `Trimmed`.  What it leaves is trimmed, and stays so in lower case.  Whether a text is
stripped before the part in front of a character is cut off, or only that part, is all the same.
-/

namespace PageComposer.Text

variable {chars : List Char}

/-! ### Blanks at the ends -/

/-- There are no blanks at the ends. -/
def Trimmed (chars : List Char) : Prop :=
  (∀ first ∈ chars.head?, isBlank first = false) ∧ ∀ last ∈ chars.getLast?, isBlank last = false

theorem stripChars_eq (chars : List Char) :
    stripChars chars = (chars.dropWhile isBlank).rdropWhile isBlank :=
  rfl

/-- A text is what stripping leaves of it, with blanks around it. -/
theorem exists_blanks_around (chars : List Char) :
    ∃ front back, chars = front ++ (stripChars chars ++ back) ∧
      (∀ char ∈ front, isBlank char = true) ∧ ∀ char ∈ back, isBlank char = true := by
  refine ⟨chars.takeWhile isBlank, (chars.dropWhile isBlank).rtakeWhile isBlank, ?_,
    fun char member => List.mem_takeWhile_imp member,
    fun char member => List.mem_rtakeWhile_imp member⟩
  rw [stripChars_eq, List.rdropWhile_append_rtakeWhile, List.takeWhile_append_dropWhile]

theorem head?_dropWhile_isBlank :
    ∀ first ∈ (chars.dropWhile isBlank).head?, isBlank first = false := by
  intro first leads
  have visible := List.head?_dropWhile_not isBlank chars
  rw [Option.mem_def] at leads
  simpa [leads] using visible

theorem trimmed_stripChars (chars : List Char) : Trimmed (stripChars chars) := by
  constructor
  · obtain ⟨back, behind⟩ := List.rdropWhile_prefix isBlank (l := chars.dropWhile isBlank)
    intro first leads
    rw [stripChars_eq, Option.mem_def] at leads
    have front : (chars.dropWhile isBlank).head? = some first := by
      rw [← behind, List.head?_append, leads]
      rfl
    exact head?_dropWhile_isBlank first front
  · intro last ends
    rw [stripChars, List.getLast?_reverse] at ends
    exact head?_dropWhile_isBlank last ends

theorem dropWhile_eq_self (visible : ∀ first ∈ chars.head?, isBlank first = false) :
    chars.dropWhile isBlank = chars := by
  cases chars with
  | nil => rfl
  | cons first rest => simp [visible first rfl]

theorem stripChars_of_trimmed (trimmed : Trimmed chars) : stripChars chars = chars := by
  have ends : ∀ last ∈ chars.reverse.head?, isBlank last = false := by
    rw [List.head?_reverse]
    exact trimmed.2
  rw [stripChars, dropWhile_eq_self trimmed.1, dropWhile_eq_self ends, List.reverse_reverse]

theorem stripChars_blanks_append {front : List Char}
    (blank : ∀ char ∈ front, isBlank char = true) (chars : List Char) :
    stripChars (front ++ chars) = stripChars chars := by
  rw [stripChars, List.dropWhile_append_of_pos blank]
  rfl

theorem stripChars_append_blanks {back : List Char} (blank : ∀ char ∈ back, isBlank char = true)
    (chars : List Char) : stripChars (chars ++ back) = stripChars chars := by
  rw [stripChars, stripChars, List.dropWhile_append]
  split
  · rename_i blanks
    rw [List.isEmpty_iff.mp blanks, List.dropWhile_eq_nil_iff.mpr blank]
  · rw [List.reverse_append,
      List.dropWhile_append_of_pos fun char member => blank char (List.mem_reverse.mp member)]

/-- Blanks around a text do not matter for what is stripped of a part in front, if no blank
ends that part. -/
theorem stripChars_takeWhile_stripChars {test : Char → Bool}
    (keeps : ∀ char, isBlank char = true → test char = true) (chars : List Char) :
    stripChars ((stripChars chars).takeWhile test) = stripChars (chars.takeWhile test) := by
  obtain ⟨front, back, whole, blankFront, blankBack⟩ := exists_blanks_around chars
  have split : chars.takeWhile test = front ++ (stripChars chars ++ back).takeWhile test := by
    rw [← List.takeWhile_append_of_pos fun char member => keeps char (blankFront char member),
      ← whole]
  rw [split, stripChars_blanks_append blankFront, List.takeWhile_append]
  split
  · rename_i long
    have all : (stripChars chars).takeWhile test = stripChars chars :=
      (List.takeWhile_prefix test).eq_of_length long
    rw [all, stripChars_append_blanks]
    intro char member
    exact blankBack char ((List.takeWhile_prefix test).subset member)
  · rfl

/-- No blanks come about at the ends of a text that is lowered. -/
theorem trimmed_lowerAfter (trimmed : Trimmed chars) : Trimmed (lowerAfter [] chars) := by
  have visible {char lowered : Char} {before behind : List Char} (blankless : isBlank char = false)
      (member : lowered ∈ loweredAt before char behind) : isBlank lowered = false := by
    obtain ⟨-, rfl | ⟨-, other⟩⟩ := mem_loweredAt member
    · exact blankless
    · exact other
  constructor
  · cases chars with
    | nil => simp [lowerAfter]
    | cons first rest =>
        intro lowered leads
        rw [lowerAfter_cons, List.head?_append_of_ne_nil _ loweredAt_ne_nil] at leads
        exact visible (trimmed.1 first rfl) (List.mem_of_head? leads)
  · rcases List.eq_nil_or_concat chars with rfl | ⟨before, last, rfl⟩
    · simp [lowerAfter]
    · intro lowered ends
      rw [List.concat_eq_append] at ends trimmed
      rw [lowerAfter_append, lowerAfter_cons, lowerAfter, List.append_nil,
        List.getLast?_append_of_ne_nil _ loweredAt_ne_nil] at ends
      exact visible (trimmed.2 last (by simp)) (List.mem_of_getLast? ends)

theorem toList_strip (text : String) : (strip text).toList = stripChars text.toList :=
  String.toList_ofList

theorem toList_before (mark : Char) (text : String) :
    (before mark text).toList = text.toList.takeWhile (· ≠ mark) :=
  String.toList_ofList

end PageComposer.Text
