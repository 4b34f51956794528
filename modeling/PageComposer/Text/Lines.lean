import PageComposer.Text.Ranges

/-!
# Lines

A text is cut into lines behind every line break: a feed, a return, both in this order,
or one of the other characters that end a line.  There is no line behind a break at the
end.
-/

namespace PageComposer.Text

/-- The runs of characters that end a line. -/
def lineBreakRanges : List (Nat × Nat) := [
  (0x000A, 0x000D), (0x001C, 0x001E), (0x0085, 0x0085), (0x2028, 0x2029)]

def isLineBreak (char : Char) : Bool := inRanges lineBreakRanges char

/-- The lines of a text; `started` is the line at hand, its last character first. -/
def linesFrom (started : List Char) : List Char → List (List Char)
  | [] => if started.isEmpty then [] else [started.reverse]
  | '\r' :: '\n' :: rest => started.reverse :: linesFrom [] rest
  | char :: rest =>
      if isLineBreak char then started.reverse :: linesFrom [] rest
      else linesFrom (char :: started) rest

/-- The lines of a text, without their breaks. -/
def lines (text : String) : List String := (linesFrom [] text.toList).map String.ofList

end PageComposer.Text
