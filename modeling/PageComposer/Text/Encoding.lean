import PageComposer.Text.Surrogate

/-!
# Encodings of texts

A text that was encoded without a word about how starts with two ASCII characters, so
where zeros stand among its first bytes tells the width of its units and their order.
`Encoding.ofBytes` looks at these bytes, and `Encoding.decode?` reads units of two or
four bytes as codes of characters.  A pair of surrogates is one character; a surrogate on
its own is kept as such.
-/

namespace PageComposer.Text

/-- What stands for a code that is no character. -/
def replacement : Char := Char.ofNat 0xFFFD

/-- The order of the bytes of a unit. -/
inductive ByteOrder where
  | bigFirst
  | littleFirst
  deriving DecidableEq, Repr

namespace ByteOrder

/-- The number that a byte and a number after it make; the byte weighs as much as its
place says when it comes first, else it is the lowest part. -/
def join (order : ByteOrder) (first second weight : Nat) : Nat :=
  match order with
  | bigFirst => first * weight + second
  | littleFirst => first + second * weight

end ByteOrder

/-- How bytes write characters. -/
inductive Encoding where
  /-- One to four bytes a character. -/
  | bytes
  /-- One or two units of two bytes a character. -/
  | pairs (order : ByteOrder)
  /-- One unit of four bytes a character. -/
  | quads (order : ByteOrder)
  deriving DecidableEq, Repr

namespace Encoding

/-- The encoding that the first bytes of a text tell. -/
def ofBytes : List Nat → Encoding
  | 0 :: 0 :: _ :: _ :: _ => quads .bigFirst
  | 0 :: _ :: _ :: _ :: _ => pairs .bigFirst
  | _ :: 0 :: 0 :: 0 :: _ => quads .littleFirst
  | _ :: 0 :: _ :: _ :: _ => pairs .littleFirst
  | [0, _] => pairs .bigFirst
  | [_, 0] => pairs .littleFirst
  | _ => bytes

/-- The numbers that each two numbers make, unless one is left over. -/
def joinPairs? (order : ByteOrder) (weight : Nat) : List Nat → Option (List Nat)
  | [] => some []
  | [_] => none
  | first :: second :: rest =>
      (joinPairs? order weight rest).map (order.join first second weight :: ·)

/-- The codes that units of two bytes write. -/
def codesOfPairs : List Nat → List Nat
  | [] => []
  | [unit] => [unit]
  | unit :: next :: rest =>
      if isHighSurrogate unit && isLowSurrogate next then
        (charOfPair unit next).toNat :: codesOfPairs rest
      else unit :: codesOfPairs (next :: rest)

/-- The codes that units of four bytes are, if all of them are codes. -/
def codesOfQuads? (units : List Nat) : Option (List Nat) :=
  if units.all (· < 0x110000) then some units else none

/-- The codes that the bytes of wider units write, if they write any. -/
def decode? (encoding : Encoding) (content : List Nat) : Option (List Nat) :=
  match encoding with
  | bytes => none
  | pairs order => (joinPairs? order 0x100 content).map codesOfPairs
  | quads order => do
      codesOfQuads? (← joinPairs? order 0x10000 (← joinPairs? order 0x100 content))

end Encoding

/-- The bytes of a text. -/
def bytesOf (text : String) : List Nat :=
  text.toList.flatMap fun char => (String.utf8EncodeChar char).map UInt8.toNat

/-- Codes without the mark that may stand before them. -/
def withoutMark : List Nat → List Nat
  | 0xFEFF :: rest => rest
  | codes => codes

/-- The codes that the bytes of a text mean when nothing is said about how they are to be
read. -/
def codesOf? (text : String) : Option (List Nat) :=
  let content := bytesOf text
  match Encoding.ofBytes content with
  | .bytes => some (withoutMark (text.toList.map Char.toNat))
  | encoding => encoding.decode? content

end PageComposer.Text
