import PageComposer.Text.Hex
import PageComposer.Text.Printable

/-!
# Quoted text

A text is quoted with single quotes, or with double quotes when it holds a single
quote and no double one.  The quote in use and the backslash are escaped, and so
is every character without a printed form.
-/

namespace PageComposer.Text

/-- One character between quotes. -/
def quoteChar (mark : Char) (char : Char) : List Char :=
  if char = mark || char = '\\' then ['\\', char]
  else if char = '\n' then ['\\', 'n']
  else if char = '\r' then ['\\', 'r']
  else if char = '\t' then ['\\', 't']
  else if isPrintable char then [char]
  else if char.toNat < 0x100 then '\\' :: 'x' :: hexDigits 2 char.toNat
  else if char.toNat < 0x10000 then '\\' :: 'u' :: hexDigits 4 char.toNat
  else '\\' :: 'U' :: hexDigits 8 char.toNat

/-- The quote that a text is put in. -/
def quoteMark (chars : List Char) : Char :=
  if chars.contains '\'' && !chars.contains '"' then '"' else '\''

/-- A text in quotes. -/
def quoted (text : String) : String :=
  let mark := quoteMark text.toList
  String.ofList (mark :: (text.toList.flatMap (quoteChar mark) ++ [mark]))

end PageComposer.Text
