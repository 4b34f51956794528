import PageComposer.Text.Encoding
import PageComposer.Text.Hex

/-!
# Percent sequences

In the parts of an address a percent sign with two digits of base sixteen stands for a
byte.  Bytes are read as UTF-8, and whatever is no character is replaced by a mark;
`percentEncode` writes every byte so that is not of a character that stands for itself.
-/

namespace PageComposer.Text

/-- A character of which some bytes are still to come. -/
structure Pending where
  /-- How many bytes are to come. -/
  missing : Nat
  /-- The value of the bytes so far. -/
  code : Nat
  /-- The next byte is at least this. -/
  low : Nat
  /-- The next byte is at most this. -/
  high : Nat
  deriving DecidableEq, Repr

/-- The start of a character: a character of one byte, one that goes on, or none. -/
def firstByte (byte : Nat) : List Char × Option Pending :=
  if byte < 0x80 then ([Char.ofNat byte], none)
  else if 0xC2 ≤ byte && byte ≤ 0xDF then ([], some ⟨1, byte - 0xC0, 0x80, 0xBF⟩)
  else if 0xE0 ≤ byte && byte ≤ 0xEF then
    ([], some ⟨2, byte - 0xE0, if byte = 0xE0 then 0xA0 else 0x80,
      if byte = 0xED then 0x9F else 0xBF⟩)
  else if 0xF0 ≤ byte && byte ≤ 0xF4 then
    ([], some ⟨3, byte - 0xF0, if byte = 0xF0 then 0x90 else 0x80,
      if byte = 0xF4 then 0x8F else 0xBF⟩)
  else ([replacement], none)

/-- The next byte, after a character that may have been begun. -/
def nextByte (pending : Option Pending) (byte : Nat) : List Char × Option Pending :=
  match pending with
  | none => firstByte byte
  | some begun =>
      if begun.low ≤ byte && byte ≤ begun.high then
        let code := begun.code * 64 + (byte - 0x80)
        if begun.missing = 1 then ([Char.ofNat code], none)
        else ([], some ⟨begun.missing - 1, code, 0x80, 0xBF⟩)
      else
        let (chars, pending) := firstByte byte
        (replacement :: chars, pending)

/-- What is left of a character that never came to its end. -/
def broken (pending : Option Pending) : List Char := if pending.isSome then [replacement] else []

/-- Decode the percent sequences of a text. -/
def percentDecode (pending : Option Pending) : List Char → List Char
  | [] => broken pending
  | '%' :: first :: second :: rest =>
      match hexValue? first, hexValue? second with
      | some high, some low =>
          let (chars, pending) := nextByte pending (16 * high + low)
          chars ++ percentDecode pending rest
      | _, _ => broken pending ++ '%' :: percentDecode none (first :: second :: rest)
  | char :: rest => broken pending ++ char :: percentDecode none rest

/-- A text without percent sequences. -/
def percentDecoded (text : String) : String := String.ofList (percentDecode none text.toList)

/-- A byte as a percent sequence. -/
def percentByte (byte : Nat) : List Char := '%' :: (hexDigits 2 byte).map Char.toUpper

/-- A character that stands for itself everywhere. -/
def isPlainInAddress (char : Char) : Bool := char.isAlphanum || "_.-~".toList.contains char

/-- A text with percent sequences for all characters but the plain ones and those that are
said to be safe. -/
def percentEncode (safe : List Char) (text : String) : String :=
  String.ofList (text.toList.flatMap fun char =>
    if isPlainInAddress char || safe.contains char then [char]
    else ((String.utf8EncodeChar char).map UInt8.toNat).flatMap percentByte)

end PageComposer.Text
