/-!
# The SHA-1 digest

The message is padded to whole blocks of sixteen 32-bit words, and each block is
mixed into five chaining words over eighty rounds.  `leadingWord` is the first of
the five words of the digest, the number that its first four bytes write with the
most significant byte first.
-/

namespace PageComposer.Sha1

/-- The five chaining words. -/
structure State where
  a : UInt32
  b : UInt32
  c : UInt32
  d : UInt32
  e : UInt32

def State.start : State :=
  ⟨0x67452301, 0xEFCDAB89, 0x98BADCFE, 0x10325476, 0xC3D2E1F0⟩

def rotateLeft (word amount : UInt32) : UInt32 :=
  (word <<< amount) ||| (word >>> (32 - amount))

/-- The number of a length as eight bytes, the most significant first. -/
def lengthBytes (bits : Nat) : List UInt8 :=
  (List.range 8).map fun place => UInt8.ofNat (bits / Nat.pow 256 (7 - place))

/-- The message, a one bit, zero bits up to a whole block, and the message's length. -/
def padded (message : List UInt8) : List UInt8 :=
  let zeros := (119 - message.length % 64) % 64
  message ++ [0x80] ++ List.replicate zeros 0 ++ lengthBytes (8 * message.length)

/-- Bytes four at a time as words. -/
def words : List UInt8 → List UInt32
  | a :: b :: c :: d :: rest =>
      (a.toUInt32 <<< 24 ||| b.toUInt32 <<< 16 ||| c.toUInt32 <<< 8 ||| d.toUInt32)
        :: words rest
  | _ => []

/-- The schedule of a block, given its last sixteen words with the latest first: each
new word is taken from the words 3, 8, 14 and 16 places before it. -/
def schedule : Nat → List UInt32 → List UInt32
  | 0, latest => latest
  | count + 1, latest =>
      let word (place : Nat) : UInt32 := latest.getD (place - 1) 0
      schedule count (rotateLeft (word 3 ^^^ word 8 ^^^ word 14 ^^^ word 16) 1 :: latest)

/-- The mixing function and the constant of a round. -/
def roundPart (round : Nat) (state : State) : UInt32 × UInt32 :=
  if round < 20 then ((state.b &&& state.c) ||| (~~~state.b &&& state.d), 0x5A827999)
  else if round < 40 then (state.b ^^^ state.c ^^^ state.d, 0x6ED9EBA1)
  else if round < 60 then
    ((state.b &&& state.c) ||| (state.b &&& state.d) ||| (state.c &&& state.d), 0x8F1BBCDC)
  else (state.b ^^^ state.c ^^^ state.d, 0xCA62C1D6)

/-- The rounds from `round` on, one for each word of the schedule. -/
def rounds (round : Nat) (state : State) : List UInt32 → State
  | [] => state
  | word :: rest =>
      let (mixed, constant) := roundPart round state
      let next := rotateLeft state.a 5 + mixed + state.e + constant + word
      rounds (round + 1) ⟨next, state.a, rotateLeft state.b 30, state.c, state.d⟩ rest

/-- Mix one block of sixteen words into the chaining words. -/
def absorb (state : State) (block : List UInt32) : State :=
  let mixed := rounds 0 state (schedule 64 block.reverse).reverse
  ⟨state.a + mixed.a, state.b + mixed.b, state.c + mixed.c, state.d + mixed.d,
    state.e + mixed.e⟩

/-- Mix all blocks in; `count` bounds their number. -/
def absorbAll : Nat → State → List UInt32 → State
  | 0, state, _ => state
  | count + 1, state, remaining =>
      if remaining.isEmpty then state
      else absorbAll count (absorb state (remaining.take 16)) (remaining.drop 16)

/-- The first word of the digest of a text's UTF-8 bytes. -/
def leadingWord (text : String) : Nat :=
  let blocks := words (padded text.toUTF8.toList)
  (absorbAll blocks.length State.start blocks).a.toNat

end PageComposer.Sha1
