import PageComposer.Text.Hex

/-!
# Surrogates

Two surrogates together write one character in units of two bytes.  A surrogate on its own
is no character, yet texts that are read from data can hold one.  In what is read from such a
text, characters that the text has no use for stand in for its surrogates:
`StandIns.unusedBy` chooses them, `StandIns.charOf` puts one in, and `StandIns.surrogateOf?`
tells which surrogate it stands in for.  A text with one of them cannot be sent.
-/

namespace PageComposer.Text

def isHighSurrogate (code : Nat) : Bool := 0xD800 ≤ code && code ≤ 0xDBFF

def isLowSurrogate (code : Nat) : Bool := 0xDC00 ≤ code && code ≤ 0xDFFF

def isSurrogate (code : Nat) : Bool := isHighSurrogate code || isLowSurrogate code

/-- The character that a pair of surrogates stands for. -/
def charOfPair (high low : Nat) : Char :=
  Char.ofNat (0x10000 + (high - 0xD800) * 0x400 + (low - 0xDC00))

/-- The codes of the characters that stand in for the surrogates, one after another.  They
lie beyond all characters that are assigned, and so beyond all that a program writes. -/
structure StandIns where
  first : Nat
  unassigned : 0x40000 ≤ first
  deriving DecidableEq, Repr

namespace StandIns

/-- How many surrogates there are. -/
def count : Nat := 0x800

/-- The code is that of a stand-in. -/
def holds (standIns : StandIns) (code : Nat) : Bool :=
  standIns.first ≤ code && code < standIns.first + count

/-- The character of a code, its stand-in for a surrogate. -/
def charOf (standIns : StandIns) (code : Nat) : Char :=
  Char.ofNat (if isSurrogate code then standIns.first + (code - 0xD800) else code)

/-- The surrogate that a character stands in for. -/
def surrogateOf? (standIns : StandIns) (char : Char) : Option Nat :=
  if standIns.holds char.toNat then some (char.toNat - standIns.first + 0xD800) else none

/-- No character below the stand-ins is one of them. -/
theorem surrogateOf?_of_lt (standIns : StandIns) {char : Char} (assigned : char.toNat < 0x40000) :
    standIns.surrogateOf? char = none := by
  have below : ¬ standIns.first ≤ char.toNat :=
    Nat.not_le.mpr (Nat.lt_of_lt_of_le assigned standIns.unassigned)
  simp [surrogateOf?, holds, below]

/-- The first of the stand-ins that there are to choose from. -/
def earliest : StandIns := ⟨0x40000, Nat.le_refl _⟩

/-- The choices of stand-ins: the planes of characters that are all unassigned, and so
without a printed form, without case and no blanks, just as surrogates are. -/
def choices : List StandIns :=
  (List.range 320).map fun index => ⟨0x40000 + count * index, Nat.le_add_right ..⟩

/-- Stand-ins none of which has one of these codes. -/
def unusedBy (codes : List Nat) : StandIns :=
  (choices.find? fun standIns => codes.all fun code => !standIns.holds code).getD
    earliest

/-- The code of the pair of surrogates that two escapes at the head of a text write. -/
def escapedPair? : List Char → Option Nat
  | '\\' :: 'u' :: a :: b :: c :: d :: '\\' :: 'u' :: e :: f :: g :: h :: _ => do
      let high ← hexValue4? a b c d
      let low ← hexValue4? e f g h
      if isHighSurrogate high && isLowSurrogate low then some (charOfPair high low).toNat else none
  | _ => none

/-- The code that a long escape of a quoted text writes, without its backslash. -/
def longEscape? : List Char → Option Nat
  | 'U' :: a :: b :: c :: d :: e :: f :: g :: h :: _ => hexNumber? 0 [a, b, c, d, e, f, g, h]
  | _ => none

/-- The codes of the characters that a text holds or writes as escapes. -/
def mentioned : List Char → List Nat
  | [] => []
  | char :: rest =>
      char.toNat :: ((escapedPair? (char :: rest)).toList
        ++ ((longEscape? (char :: rest)).toList ++ mentioned rest))

/-- Stand-ins for what is read from a text. -/
def forText (chars : List Char) : StandIns := unusedBy (mentioned chars)

/-- A text with the escapes of surrogates in place of those of their stand-ins; the first
characters are skipped. -/
def restoredFrom (standIns : StandIns) (skipped : Nat) : List Char → List Char
  | [] => []
  | char :: rest =>
      match skipped, char, longEscape? rest with
      | skipped + 1, _, _ => restoredFrom standIns skipped rest
      | 0, '\\', some code =>
          match standIns.surrogateOf? (Char.ofNat code) with
          | some surrogate =>
              '\\' :: 'u' :: (hexDigits 4 surrogate ++ restoredFrom standIns 9 rest)
          | none => '\\' :: restoredFrom standIns 0 rest
      | 0, char, _ => char :: restoredFrom standIns 0 rest

/-- A text as it reads with the surrogates that its stand-ins stand in for; the stand-ins
that are not quoted are still there. -/
def restored (standIns : StandIns) (text : String) : String :=
  String.ofList (standIns.restoredFrom 0 text.toList)

end StandIns

/-- Surrogates without a character between them. -/
structure SurrogateRun where
  /-- The index of the first of them. -/
  start : Nat
  length : Nat
  first : Nat
  deriving DecidableEq, Repr

/-- The first run of surrogates among characters from an index on. -/
def surrogateRun? (standIns : StandIns) (index : Nat) : List Char → Option SurrogateRun
  | [] => none
  | char :: rest =>
      match standIns.surrogateOf? char with
      | none => surrogateRun? standIns (index + 1) rest
      | some first =>
          let others := rest.takeWhile fun char => (standIns.surrogateOf? char).isSome
          some ⟨index, 1 + others.length, first⟩

/-- A text holds a surrogate on its own. -/
def holdsSurrogate (standIns : Option StandIns) (text : String) : Bool :=
  standIns.any fun standIns =>
    text.toList.any fun char => (standIns.surrogateOf? char).isSome

@[simp]
theorem holdsSurrogate_none (text : String) : holdsSurrogate none text = false := rfl

/-- A text as it is encoded, or the first run of the surrogates that cannot be. -/
def encoded (standIns : Option StandIns) (text : String) : Except SurrogateRun String :=
  match standIns with
  | none => .ok text
  | some standIns =>
      match surrogateRun? standIns 0 (standIns.restored text).toList with
      | none => .ok (standIns.restored text)
      | some run => .error run

end PageComposer.Text
