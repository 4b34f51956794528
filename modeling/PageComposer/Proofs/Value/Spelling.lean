import PageComposer.Display
import PageComposer.Json.Writer

/-!
# Values that are spelt alike

A value has two texts: the one in messages, `Value.quoted`, and the one in data, `Json.compact`.
`Value.isAlike` says which values have the same text in both.  Other values have texts that
`Diverge` at a place that both of them have, so that nothing put behind them can make up for the
difference; this is what carries the comparison from the parts of a value to the whole.
-/

namespace PageComposer.Text

/-- Two texts differ at a place that both have, so that neither begins with the other. -/
inductive Diverge : List Char → List Char → Prop where
  | here {left right : Char} {lefts rights : List Char} (differ : left ≠ right) :
      Diverge (left :: lefts) (right :: rights)
  | there {char : Char} {lefts rights : List Char} (later : Diverge lefts rights) :
      Diverge (char :: lefts) (char :: rights)

variable {left right : List Char}

theorem Diverge.ne (diverge : Diverge left right) : left ≠ right := by
  induction diverge with
  | here differ =>
      intro same
      exact differ (List.cons.inj same).1
  | there _ induction =>
      intro same
      exact induction (List.cons.inj same).2

theorem Diverge.append (diverge : Diverge left right) (lefts rights : List Char) :
    Diverge (left ++ lefts) (right ++ rights) := by
  induction diverge with
  | here differ => exact .here differ
  | there _ induction => exact .there induction

theorem Diverge.behind (diverge : Diverge left right) (front : List Char) :
    Diverge (front ++ left) (front ++ right) := by
  induction front with
  | nil => exact diverge
  | cons char front induction => exact .there induction

/-- Two texts are the same if they should be, and diverge if they should not. -/
def SameIf (same : Bool) (left right : List Char) : Prop :=
  if same then left = right else Diverge left right

theorem sameIf_true : SameIf true left right ↔ left = right := by
  rw [SameIf, if_pos rfl]

theorem sameIf_false : SameIf false left right ↔ Diverge left right := by
  rw [SameIf, if_neg Bool.false_ne_true]

theorem SameIf.eq_iff {same : Bool} (compared : SameIf same left right) :
    left = right ↔ same = true := by
  cases same with
  | true => simpa using sameIf_true.mp compared
  | false => simpa using (sameIf_false.mp compared).ne

/-- Texts in two pieces are compared piece by piece. -/
theorem SameIf.append {first second : Bool} {lefts rights : List Char}
    (front : SameIf first left right) (back : SameIf second lefts rights) :
    SameIf (first && second) (left ++ lefts) (right ++ rights) := by
  cases first with
  | false =>
      rw [Bool.false_and, sameIf_false]
      exact (sameIf_false.mp front).append lefts rights
  | true =>
      obtain rfl := sameIf_true.mp front
      rw [Bool.true_and]
      cases second with
      | true => rw [sameIf_true, sameIf_true.mp back]
      | false =>
          rw [sameIf_false]
          exact (sameIf_false.mp back).behind left

theorem SameIf.within {same : Bool} (compared : SameIf same left right) (front back : List Char) :
    SameIf same (front ++ (left ++ back)) (front ++ (right ++ back)) := by
  have shared (part : List Char) : SameIf true part part := sameIf_true.mpr rfl
  simpa using (shared front).append (compared.append (shared back))

/-! ### Texts in quotes -/

/-- A character that is the same between double quotes in a message and in data. -/
def isAlikeChar (char : Char) : Bool :=
  isPrintable char || char = '\n' || char = '\r' || char = '\t'

/-- A text that a message puts in double quotes and has nothing else to escape in than data has. -/
def isAlikeText (chars : List Char) : Bool := quoteMark chars = '"' && chars.all isAlikeChar

/-- The characters besides the quote that have the same escape in messages and in data. -/
def sharedEscapes : List Char := ['\\', '\n', '\r', '\t']

variable {char : Char}

theorem not_control_of_isPrintable (printable : isPrintable char = true) :
    ¬ char.toNat < 0x20 := by
  intro control
  have inside : inRanges unprintableRanges char = true := by
    rw [unprintableRanges, inRanges, if_neg (Nat.not_lt_zero _), Bool.or_eq_true, decide_eq_true_iff]
    omega
  simp [isPrintable, inside] at printable

/-- In a message an unprintable character is a backslash, a letter and digits.  The letter is `x`
for all characters that data may escape, too. -/
theorem exists_quoteChar (unprintable : isPrintable char = false) (notQuote : char ≠ '"')
    (unshared : char ∉ sharedEscapes) :
    ∃ letter digits, quoteChar '"' char = '\\' :: letter :: digits ∧
      (char.toNat < 0x100 → letter = 'x') ∧ letter ≠ 'b' ∧ letter ≠ 'f' := by
  simp only [sharedEscapes, List.mem_cons, List.not_mem_nil, or_false, not_or] at unshared
  simp only [quoteChar, notQuote, unshared, unprintable]
  by_cases short : char.toNat < 0x100
  · exact ⟨'x', hexDigits 2 char.toNat, by simp [short], fun _ => rfl, by decide, by decide⟩
  by_cases middle : char.toNat < 0x10000
  · exact ⟨'u', hexDigits 4 char.toNat, by simp [short, middle], fun small => absurd small short,
      by decide, by decide⟩
  · exact ⟨'U', hexDigits 8 char.toNat, by simp [short, middle], fun small => absurd small short,
      by decide, by decide⟩

theorem diverge_of_unprintable (unprintable : isPrintable char = false) (notQuote : char ≠ '"')
    (unshared : char ∉ sharedEscapes) :
    Diverge (quoteChar '"' char) (Json.escapeChar char) := by
  obtain ⟨letter, digits, shown, small, notB, notF⟩ :=
    exists_quoteChar unprintable notQuote unshared
  simp only [sharedEscapes, List.mem_cons, List.not_mem_nil, or_false, not_or] at unshared
  rw [shown]
  simp only [Json.escapeChar, notQuote, unshared]
  by_cases backspace : char = '\x08'
  · simpa [backspace] using Diverge.there (.here notB)
  by_cases formFeed : char = '\x0c'
  · simpa [formFeed] using Diverge.there (.here notF)
  by_cases control : char.toNat < 0x20
  · obtain rfl := small (by omega)
    simpa [backspace, formFeed, control] using Diverge.there (.here (by decide))
  · simpa [backspace, formFeed, control] using Diverge.here (Ne.symm unshared.1)

theorem sameIf_quoteChar (notQuote : char ≠ '"') :
    SameIf (isAlikeChar char) (quoteChar '"' char) (Json.escapeChar char) := by
  have shared : (sharedEscapes.all fun char =>
      isAlikeChar char && quoteChar '"' char == Json.escapeChar char) = true := by decide
  by_cases isShared : char ∈ sharedEscapes
  · have both := List.all_eq_true.mp shared char isShared
    rw [Bool.and_eq_true, beq_iff_eq] at both
    rw [both.1, sameIf_true, both.2]
  have unshared := isShared
  simp only [sharedEscapes, List.mem_cons, List.not_mem_nil, or_false, not_or] at unshared
  cases printable : isPrintable char with
  | true =>
      have visible := not_control_of_isPrintable printable
      have notBackspace : char ≠ '\x08' := by
        rintro rfl
        exact visible (by decide)
      have notFormFeed : char ≠ '\x0c' := by
        rintro rfl
        exact visible (by decide)
      rw [isAlikeChar, printable, Bool.true_or, Bool.true_or, Bool.true_or, sameIf_true]
      simp [quoteChar, Json.escapeChar, notQuote, unshared, printable, notBackspace, notFormFeed,
        visible]
  | false =>
      have apart : isAlikeChar char = false := by
        simp [isAlikeChar, printable, unshared]
      rw [apart, sameIf_false]
      exact diverge_of_unprintable printable notQuote isShared

theorem sameIf_flatMap {chars : List Char} (notQuote : '"' ∉ chars) :
    SameIf (chars.all isAlikeChar) (chars.flatMap (quoteChar '"'))
      (chars.flatMap Json.escapeChar) := by
  induction chars with
  | nil => exact sameIf_true.mpr rfl
  | cons char rest induction =>
      rw [List.mem_cons, not_or] at notQuote
      rw [List.all_cons, List.flatMap_cons, List.flatMap_cons]
      exact (sameIf_quoteChar (Ne.symm notQuote.1)).append (induction notQuote.2)

theorem quoteMark_cases (chars : List Char) :
    (quoteMark chars = '"' ∧ '"' ∉ chars) ∨ quoteMark chars = '\'' := by
  unfold quoteMark
  split
  · rename_i only
    rw [Bool.and_eq_true, Bool.not_eq_true', List.contains_eq_mem, List.contains_eq_mem,
      decide_eq_true_iff, decide_eq_false_iff_not] at only
    exact .inl ⟨rfl, only.2⟩
  · exact .inr rfl

theorem sameIf_quoted (text : String) :
    SameIf (isAlikeText text.toList) (quoted text).toList (Json.writeText text).toList := by
  rw [quoted, Json.writeText, String.toList_ofList, String.toList_ofList, isAlikeText]
  rcases quoteMark_cases text.toList with ⟨double, notQuote⟩ | single
  · rw [double, decide_eq_true rfl, Bool.true_and]
    exact (sameIf_flatMap notQuote).within ['"'] ['"']
  · rw [single, decide_eq_false (by decide), Bool.false_and, sameIf_false]
    exact .here (by decide)

end PageComposer.Text

namespace PageComposer

open Text (SameIf Diverge sameIf_true sameIf_false)

/-! ### Numbers -/

namespace Decimal.Layout

variable {value : Binary64}

theorem write_data_of_finite (finite : value.isFinite = true) :
    data.write value = display.write value := by
  rw [write, write, data.writeBy_of_finite shortest finite,
    display.writeBy_of_finite shortest finite]
  rfl

/-- What is no number is spelt with capitals in data. -/
theorem diverge_of_not_finite (notFinite : value.isFinite = false) :
    Diverge (display.write value).toList (data.write value).toList := by
  have nothing : Diverge display.notANumber.toList data.notANumber.toList :=
    .here (by decide : 'n' ≠ 'N')
  have infinite : Diverge display.infinity.toList data.infinity.toList :=
    .here (by decide : 'i' ≠ 'I')
  rw [write, write, display.writeBy_of_not_finite shortest notFinite,
    data.writeBy_of_not_finite shortest notFinite]
  split
  · exact nothing
  · split
    · exact infinite.behind ['-']
    · exact infinite

theorem sameIf_write (value : Binary64) :
    SameIf value.isFinite (display.write value).toList (data.write value).toList := by
  cases finite : value.isFinite with
  | true => rw [sameIf_true, write_data_of_finite finite]
  | false => exact sameIf_false.mpr (diverge_of_not_finite finite)

end Decimal.Layout

theorem isDigit_or_minus_of_mem {number : Int} {char : Char}
    (member : char ∈ (toString number).toList) : char.isDigit = true ∨ char = '-' := by
  cases number with
  | ofNat number => exact .inl (Decimal.isDigit_of_mem_toString member)
  | negSucc number =>
      have signed : (toString (Int.negSucc number)).toList =
          '-' :: (toString (number + 1)).toList := by
        rw [Int.toString_eq_repr, Int.repr]
        simp
      rw [signed, List.mem_cons] at member
      rcases member with rfl | digit
      · exact .inr rfl
      · exact .inl (Decimal.isDigit_of_mem_toString digit)

namespace Json

theorem exists_first_of_visible {text : String} (given : text.toList ≠ [])
    (visible : ' ' ∉ text.toList) : ∃ first rest, text.toList = first :: rest ∧ first ≠ ' ' := by
  obtain ⟨first, rest, chars⟩ := List.exists_cons_of_ne_nil given
  refine ⟨first, rest, chars, ?_⟩
  rintro rfl
  exact visible (by simp [chars])

theorem visible_int (number : Int) :
    (toString number).toList ≠ [] ∧ ' ' ∉ (toString number).toList := by
  constructor
  · rw [Int.toString_eq_repr, Int.repr_eq_if]
    split <;> simp [Nat.repr]
  · intro blank
    have digit := isDigit_or_minus_of_mem blank
    revert digit
    decide

theorem visible_float (value : Binary64) :
    (Decimal.Layout.data.write value).toList ≠ [] ∧
      ' ' ∉ (Decimal.Layout.data.write value).toList := by
  cases finite : value.isFinite with
  | true =>
      obtain ⟨numeric, marked⟩ := Decimal.Layout.data.numeric_writeBy Decimal.shortest finite
      refine ⟨marked.elim List.ne_nil_of_mem List.ne_nil_of_mem, fun blank => ?_⟩
      have numeral := numeric ' ' blank
      revert numeral
      decide
  | false =>
      rw [Decimal.Layout.write, Decimal.Layout.data.writeBy_of_not_finite _ finite]
      split
      · decide
      · split <;> decide

/-- No JSON text begins with a blank. -/
theorem exists_first (value : Value) :
    ∃ first rest, (compact value).toList = first :: rest ∧ first ≠ ' ' := by
  cases value with
  | null => exact ⟨'n', _, rfl, by decide⟩
  | bool value =>
      cases value with
      | true => exact ⟨'t', _, rfl, by decide⟩
      | false => exact ⟨'f', _, rfl, by decide⟩
  | int number =>
      obtain ⟨given, visible⟩ := visible_int number
      exact exists_first_of_visible given visible
  | float value =>
      obtain ⟨given, visible⟩ := visible_float value
      exact exists_first_of_visible given visible
  | str text => exact ⟨'"', _, String.toList_ofList, by decide⟩
  | list items =>
      refine ⟨'[', (compactItems items ++ "]").toList, ?_, by decide⟩
      simp [compact]
  | object fields =>
      refine ⟨'\x7b', (compactFields fields ++ "\x7d").toList, ?_, by decide⟩
      simp [compact]

theorem exists_compactItems (item : Value) (rest : List Value) :
    ∃ tail, compactItems (item :: rest) = compact item ++ tail := by
  cases rest with
  | nil => exact ⟨"", by simp [compactItems]⟩
  | cons next rest =>
      exact ⟨"," ++ compactItems (next :: rest), by simp [compactItems, String.append_assoc]⟩

theorem exists_compactFields (key : String) (value : Value) (rest : List (String × Value)) :
    ∃ tail, compactFields ((key, value) :: rest) =
      writeText key ++ (":" ++ (compact value ++ tail)) := by
  cases rest with
  | nil => exact ⟨"", by simp [compactFields, String.append_assoc]⟩
  | cons next rest =>
      exact ⟨"," ++ compactFields (next :: rest), by simp [compactFields, String.append_assoc]⟩

end Json

namespace Value

theorem exists_quotedFields (key : String) (value : Value) (rest : List (String × Value)) :
    ∃ tail, quotedFields ((key, value) :: rest) =
      Text.quoted key ++ (": " ++ (value.quoted ++ tail)) := by
  cases rest with
  | nil => exact ⟨"", by simp [quotedFields, String.append_assoc]⟩
  | cons next rest =>
      exact ⟨", " ++ quotedFields (next :: rest), by simp [quotedFields, String.append_assoc]⟩

/-- Messages put a blank behind a comma and a colon, where data goes on with a value. -/
theorem diverge_of_blank (mark : Char) (shown : List Char) (value : Value) (tail : String) :
    Diverge (mark :: ' ' :: shown) (mark :: (Json.compact value ++ tail).toList) := by
  obtain ⟨first, rest, begins, notBlank⟩ := Json.exists_first value
  rw [String.toList_append, begins]
  exact .there (.here notBlank.symm)

mutual

/-- The value has the same text in messages as in data: it is no null and no truth value, a double
is finite, a text stands in double quotes with the same escapes, and there is nothing to put
between two items of a list or between a key and its value. -/
def isAlike : Value → Bool
  | .null | .bool _ => false
  | .int _ => true
  | .float value => value.isFinite
  | .str text => Text.isAlikeText text.toList
  | .list items => areAlike items
  | .object fields => fields.isEmpty

def areAlike : List Value → Bool
  | [] => true
  | [item] => item.isAlike
  | _ :: _ :: _ => false

end

mutual

theorem sameIf_compact : (value : Value) →
    SameIf value.isAlike value.quoted.toList (Json.compact value).toList
  | .null => .here (by decide)
  | .bool true => .here (by decide)
  | .bool false => .here (by decide)
  | .int _ => rfl
  | .float value => Decimal.Layout.sameIf_write value
  | .str text => Text.sameIf_quoted text
  | .list items => by
      have compared := (sameIf_compactItems items).within ['['] [']']
      simpa [isAlike, quoted, Json.compact] using compared
  | .object [] => rfl
  | .object ((key, value) :: rest) => by
      obtain ⟨shown, quotedParts⟩ := exists_quotedFields key value rest
      obtain ⟨tail, compactParts⟩ := Json.exists_compactFields key value rest
      have apart : SameIf false (':' :: ' ' :: (value.quoted ++ shown).toList)
          (':' :: (Json.compact value ++ tail).toList) :=
        sameIf_false.mpr (diverge_of_blank ':' _ value tail)
      have compared := ((Text.sameIf_quoted key).append apart).within ['\x7b'] ['\x7d']
      rw [Bool.and_false] at compared
      simpa [isAlike, quoted, Json.compact, quotedParts, compactParts] using compared

theorem sameIf_compactItems : (items : List Value) →
    SameIf (areAlike items) (quotedItems items).toList (Json.compactItems items).toList
  | [] => rfl
  | [item] => sameIf_compact item
  | item :: next :: rest => by
      obtain ⟨tail, compactParts⟩ := Json.exists_compactItems next rest
      have apart : SameIf false (',' :: ' ' :: (quotedItems (next :: rest)).toList)
          (',' :: (Json.compact next ++ tail).toList) :=
        sameIf_false.mpr (diverge_of_blank ',' _ next tail)
      have compared := (sameIf_compact item).append apart
      rw [Bool.and_false] at compared
      simpa [areAlike, quotedItems, Json.compactItems, compactParts] using compared

end

/-- The values with the same text in messages as in data. -/
theorem quoted_eq_compact_iff {value : Value} :
    value.quoted = Json.compact value ↔ value.isAlike = true := by
  rw [← String.toList_inj]
  exact (sameIf_compact value).eq_iff

end Value

end PageComposer
