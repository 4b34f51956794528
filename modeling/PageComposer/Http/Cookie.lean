import PageComposer.Value
import PageComposer.Text.Blank

/-!
# Cookies

A cookie header is a list of pairs between semicolons, with blanks around them.  A
value in double quotes has its quotes taken off and its escapes undone.
-/

namespace PageComposer.Http

def octalDigit? (char : Char) (most : Char) : Option Nat :=
  if '0' ≤ char && char ≤ most then some (char.toNat - 48) else none

/-- The character that a backslash and three digits of base eight stand for. -/
def octal? : List Char → Option Char
  | first :: second :: third :: _ => do
      let high ← octalDigit? first '3'
      let middle ← octalDigit? second '7'
      let low ← octalDigit? third '7'
      return Char.ofNat (64 * high + 8 * middle + low)
  | _ => none

/-- Undo the escapes of a quoted value; `skip` characters belong to an escape before. -/
def unescape (skip : Nat) : List Char → List Char
  | [] => []
  | char :: rest =>
      match skip with
      | skip + 1 => unescape skip rest
      | 0 =>
          if char = '\\' then
            match octal? rest, rest with
            | some meant, _ => meant :: unescape 3 rest
            | none, next :: _ =>
                if next = '\n' then char :: unescape 0 rest else next :: unescape 1 rest
            | none, [] => [char]
          else char :: unescape 0 rest

/-- A value without the quotes it stands in. -/
def unquote (text : String) : String :=
  match text.toList with
  | '"' :: rest =>
      match rest.reverse with
      | '"' :: inner => String.ofList (unescape 0 inner.reverse)
      | _ => text
  | _ => text

/-- The cookies of a header. -/
def cookies (header : String) : Fields :=
  (Text.pieces ';' header).foldl (fun read piece =>
    let (name, value) :=
      match Text.partition '=' piece with
      | (name, some value) => (Text.strip name, Text.strip value)
      | (piece, none) => ("", Text.strip piece)
    if name.isEmpty && value.isEmpty then read
    else Fields.insert read name (.str (unquote value))) []

end PageComposer.Http
