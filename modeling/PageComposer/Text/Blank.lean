import PageComposer.Text.Ranges

/-!
# Blanks and pieces

Blanks are the characters of the Unicode property White_Space and the four
information separators.  `strip` takes them off both ends of a text, and
`pieces` cuts a text at every occurrence of one character, so that a text without
the character is a single piece.
-/

namespace PageComposer.Text

/-- The runs of blanks. -/
def blankRanges : List (Nat × Nat) := [
  (0x0009, 0x000D), (0x001C, 0x0020), (0x0085, 0x0085), (0x00A0, 0x00A0),
  (0x1680, 0x1680), (0x2000, 0x200A), (0x2028, 0x2029), (0x202F, 0x202F),
  (0x205F, 0x205F), (0x3000, 0x3000)]

def isBlank (char : Char) : Bool := inRanges blankRanges char

/-- Drop the blanks at both ends. -/
def stripChars (chars : List Char) : List Char :=
  ((chars.dropWhile isBlank).reverse.dropWhile isBlank).reverse

def strip (text : String) : String := String.ofList (stripChars text.toList)

/-- Cut at every occurrence of a character: the first piece and the others. -/
def cut (mark : Char) : List Char → List Char × List (List Char)
  | [] => ([], [])
  | char :: rest =>
      let (first, others) := cut mark rest
      if char = mark then ([], first :: others) else (char :: first, others)

/-- The pieces of a text between the occurrences of a character. -/
def pieces (mark : Char) (text : String) : List String :=
  let (first, others) := cut mark text.toList
  (first :: others).map String.ofList

/-- The text before the first occurrence of a character. -/
def before (mark : Char) (text : String) : String :=
  String.ofList (text.toList.takeWhile (· ≠ mark))

/-- The text before the first occurrence of a character and, if it occurs, the text
after it. -/
def partition (mark : Char) (text : String) : String × Option String :=
  let chars := text.toList
  let rest := chars.dropWhile (· ≠ mark)
  (String.ofList (chars.takeWhile (· ≠ mark)),
    match rest with
    | [] => none
    | _ :: after => some (String.ofList after))

/-- The second list starts with the first. -/
def startsWith : List Char → List Char → Bool
  | [], _ => true
  | _ :: _, [] => false
  | left :: lefts, right :: rights => left == right && startsWith lefts rights

/-- The second text holds the first in one piece. -/
def occursIn (part : List Char) : List Char → Bool
  | [] => part.isEmpty
  | char :: rest => startsWith part (char :: rest) || occursIn part rest

def contains (text part : String) : Bool := occursIn part.toList text.toList

end PageComposer.Text
