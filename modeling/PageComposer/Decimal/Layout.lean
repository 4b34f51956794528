import PageComposer.Decimal.Shortest

/-!
# The text of a double

`Layout` holds the decisions of a number format: which decimal exponents are
written positionally, and how an exponent and the values that are not numbers
are spelt.  `Layout.write` applies them to the fewest digits that read back, and
`Layout.writeBy` to digits that are found in another way.  What they write for a finite
double is `Numeric` and has a point or an exponent, so it is never the text of an integer.
-/

namespace PageComposer.Decimal

/-- How doubles are written. -/
structure Layout where
  /-- The least decimal exponent that is written without an exponent. -/
  leastPositional : Int
  /-- The least decimal exponent above it that is written with an exponent again. -/
  endPositional : Int
  exponentWidth : Nat
  /-- A single digit before an exponent is followed by a point and a zero. -/
  alwaysPoint : Bool
  infinity : String
  negativeInfinity : String
  notANumber : String

/-- Positional for exponents from -4 to 15 and always with a point, otherwise with
a signed exponent of at least two digits. -/
def Layout.display : Layout where
  leastPositional := -4
  endPositional := 16
  exponentWidth := 2
  alwaysPoint := false
  infinity := "inf"
  negativeInfinity := "-inf"
  notANumber := "nan"

/-- The display layout with the spellings that data files use. -/
def Layout.data : Layout :=
  { Layout.display with
    infinity := "Infinity", negativeInfinity := "-Infinity", notANumber := "NaN" }

/-- The layout of columns of texts: positional up to 14, and always with a point. -/
def Layout.column : Layout :=
  { Layout.display with
    endPositional := 15, alwaysPoint := true, infinity := "Inf", negativeInfinity := "-Inf" }

private def padded (width : Nat) (text : String) : String :=
  String.ofList (List.replicate (width - text.length) '0') ++ text

private def positional (digits : List Char) (point : Int) : String :=
  if point ≤ 0 then
    "0." ++ String.ofList (List.replicate (-point).toNat '0' ++ digits)
  else if digits.length ≤ point.toNat then
    String.ofList (digits ++ List.replicate (point.toNat - digits.length) '0') ++ ".0"
  else
    String.ofList (digits.take point.toNat) ++ "." ++ String.ofList (digits.drop point.toNat)

private def exponential (layout : Layout) (digits : List Char) (exponent : Int) : String :=
  let fraction := digits.drop 1
  String.ofList (digits.take 1)
    ++ (if !fraction.isEmpty then "." ++ String.ofList fraction
        else if layout.alwaysPoint then ".0" else "")
    ++ "e" ++ (if exponent < 0 then "-" else "+")
    ++ padded layout.exponentWidth (toString exponent.natAbs)

/-- The text of a decimal number; zeros at its end are not written. -/
def Layout.writeDecimal (layout : Layout) (decimal : Scientific) : String :=
  let written := (toString decimal.digits).toList
  let digits := (written.reverse.dropWhile (· = '0')).reverse
  if digits.isEmpty then "0.0"
  else
    let point := (written.length : Int) + decimal.exponent
    let exponent := point - 1
    if layout.leastPositional ≤ exponent ∧ exponent < layout.endPositional then
      positional digits point
    else exponential layout digits exponent

/-- The text of a double, given the digits of a positive finite one. -/
def Layout.writeBy (layout : Layout) (digits : Binary64 → Scientific) (value : Binary64) :
    String :=
  if value.isNaN then layout.notANumber
  else if value.isInfinite then
    if value.negative then layout.negativeInfinity else layout.infinity
  else
    (if value.negative then "-" else "")
      ++ (if value.isZero then "0.0" else layout.writeDecimal (digits value))

/-- The text of a double. -/
def Layout.write (layout : Layout) : Binary64 → String := layout.writeBy shortest

/-! ### The characters of decimal numbers -/

/-- A digit, or another character that decimal numbers are written with. -/
def isNumeral (char : Char) : Bool := char.isDigit || ['.', 'e', '+', '-'].contains char

/-- Nothing but the characters of decimal numbers. -/
def Numeric (text : String) : Prop := ∀ char ∈ text.toList, isNumeral char = true

instance : DecidablePred Numeric := fun text =>
  decidable_of_iff (text.toList.all isNumeral = true) List.all_eq_true

variable {left right : String} {digits : List Char}

theorem Numeric.append (first : Numeric left) (second : Numeric right) :
    Numeric (left ++ right) := by
  intro char member
  rw [String.toList_append, List.mem_append] at member
  exact member.elim (first char) (second char)

private theorem numeric_ofList (digital : ∀ char ∈ digits, char.isDigit = true) :
    Numeric (String.ofList digits) := by
  intro char member
  rw [String.toList_ofList] at member
  simp [isNumeral, digital char member]

private theorem numeric_take_drop (digital : ∀ char ∈ digits, char.isDigit = true) (count : Nat) :
    Numeric (String.ofList (digits.take count)) ∧ Numeric (String.ofList (digits.drop count)) := by
  constructor
  · exact numeric_ofList fun char member => digital char (List.mem_of_mem_take member)
  · exact numeric_ofList fun char member => digital char (List.mem_of_mem_drop member)

private theorem isDigit_append_zeros (digital : ∀ char ∈ digits, char.isDigit = true)
    (count : Nat) : ∀ char ∈ digits ++ List.replicate count '0', char.isDigit = true := by
  intro char member
  rcases List.mem_append.mp member with inside | zero
  · exact digital char inside
  · obtain ⟨-, rfl⟩ := List.mem_replicate.mp zero
    rfl

theorem isDigit_of_mem_toString {number : Nat} {char : Char}
    (member : char ∈ (toString number).toList) : char.isDigit = true := by
  have digits : (toString number).toList = Nat.toDigits 10 number := by
    simp [toString, Nat.repr]
  rw [digits] at member
  exact Nat.isDigit_of_mem_toDigits (by decide) (by decide) member

private theorem numeric_positional (digital : ∀ char ∈ digits, char.isDigit = true)
    (point : Int) : Numeric (positional digits point) ∧ '.' ∈ (positional digits point).toList := by
  have dot : Numeric "." := by decide
  have zero : Numeric "0." ∧ Numeric ".0" := by decide
  unfold positional
  split
  · refine ⟨zero.1.append (numeric_ofList ?_), by simp⟩
    intro char member
    rw [List.mem_append, or_comm, ← List.mem_append] at member
    exact isDigit_append_zeros digital _ char member
  · split
    · exact ⟨(numeric_ofList (isDigit_append_zeros digital _)).append zero.2, by simp⟩
    · obtain ⟨front, back⟩ := numeric_take_drop digital point.toNat
      exact ⟨(front.append dot).append back, by simp⟩

private theorem numeric_exponential (layout : Layout)
    (digital : ∀ char ∈ digits, char.isDigit = true) (exponent : Int) :
    Numeric (exponential layout digits exponent) ∧
      'e' ∈ (exponential layout digits exponent).toList := by
  have sign : Numeric (if exponent < 0 then "-" else "+") := by
    split <;> decide
  have places : Numeric (padded layout.exponentWidth (toString exponent.natAbs)) := by
    refine Numeric.append (numeric_ofList ?_) ?_
    · have none : ∀ char ∈ ([] : List Char), char.isDigit = true := by simp
      exact isDigit_append_zeros none _
    · rw [← String.ofList_toList (s := toString exponent.natAbs)]
      exact numeric_ofList fun char member => isDigit_of_mem_toString member
  have first := (numeric_take_drop digital 1).1
  have behind : Numeric (if !(digits.drop 1).isEmpty then "." ++ String.ofList (digits.drop 1)
      else if layout.alwaysPoint then ".0" else "") := by
    split
    · exact Numeric.append (by decide) (numeric_take_drop digital 1).2
    · split <;> decide
  have mark : Numeric "e" := by decide
  exact ⟨(((first.append behind).append mark).append sign).append places, by simp [exponential]⟩

/-- A decimal number is written with the characters of decimal numbers, among them a point or the
letter in front of an exponent, which an integer does not have. -/
theorem Layout.numeric_writeDecimal (layout : Layout) (decimal : Scientific) :
    Numeric (layout.writeDecimal decimal) ∧
      ('.' ∈ (layout.writeDecimal decimal).toList ∨ 'e' ∈ (layout.writeDecimal decimal).toList) := by
  have digital : ∀ char ∈ ((toString decimal.digits).toList.reverse.dropWhile (· = '0')).reverse,
      char.isDigit = true := by
    intro char member
    have among := (List.dropWhile_sublist _).subset (List.mem_reverse.mp member)
    exact isDigit_of_mem_toString (List.mem_reverse.mp among)
  simp only [Layout.writeDecimal]
  split
  · exact ⟨by decide, by decide⟩
  · split
    · obtain ⟨numeric, point⟩ := numeric_positional digital _
      exact ⟨numeric, .inl point⟩
    · obtain ⟨numeric, mark⟩ := numeric_exponential layout digital _
      exact ⟨numeric, .inr mark⟩

theorem Layout.writeBy_of_finite (layout : Layout) (digits : Binary64 → Scientific)
    {value : Binary64} (finite : value.isFinite = true) :
    layout.writeBy digits value = (if value.negative then "-" else "") ++
      (if value.isZero then "0.0" else layout.writeDecimal (digits value)) := by
  have below : (value.exponent.val == 2047) = false := by
    simpa [Binary64.isFinite] using finite
  simp [Layout.writeBy, Binary64.isNaN, Binary64.isInfinite, below]

theorem Layout.writeBy_of_not_finite (layout : Layout) (digits : Binary64 → Scientific)
    {value : Binary64} (notFinite : value.isFinite = false) :
    layout.writeBy digits value = if value.isNaN then layout.notANumber
      else if value.negative then layout.negativeInfinity else layout.infinity := by
  have top : (value.exponent.val == 2047) = true := by
    simpa [Binary64.isFinite] using notFinite
  cases fraction : value.fraction.val == 0 <;>
    simp [Layout.writeBy, Binary64.isNaN, Binary64.isInfinite, top, bne, fraction]

/-- So is a finite double, whatever digits are found for it. -/
theorem Layout.numeric_writeBy (layout : Layout) (digits : Binary64 → Scientific)
    {value : Binary64} (finite : value.isFinite = true) :
    Numeric (layout.writeBy digits value) ∧
      ('.' ∈ (layout.writeBy digits value).toList ∨ 'e' ∈ (layout.writeBy digits value).toList) := by
  have sign : Numeric (if value.negative then "-" else "") := by
    split <;> decide
  have zero : Numeric "0.0" := by decide
  rw [layout.writeBy_of_finite digits finite]
  by_cases none : value.isZero = true
  · rw [if_pos none]
    exact ⟨sign.append zero, by simp⟩
  · rw [if_neg none]
    obtain ⟨numeric, marked⟩ := layout.numeric_writeDecimal (digits value)
    refine ⟨sign.append numeric, ?_⟩
    rw [String.toList_append, List.mem_append, List.mem_append]
    exact marked.imp .inr .inr

end PageComposer.Decimal
