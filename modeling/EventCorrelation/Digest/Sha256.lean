/-!
# SHA-256

The digest of a row of bytes: padding to whole blocks of 64 bytes, and a compression of each block
into eight words.
-/

namespace EventCorrelation.Sha256

/-- The eight words that a block is compressed into. -/
structure State where
  a : UInt32
  b : UInt32
  c : UInt32
  d : UInt32
  e : UInt32
  f : UInt32
  g : UInt32
  h : UInt32
deriving DecidableEq

/-- The state in front of the first block. -/
def initial : State :=
  ⟨0x6a09e667, 0xbb67ae85, 0x3c6ef372, 0xa54ff53a, 0x510e527f, 0x9b05688c, 0x1f83d9ab, 0x5be0cd19⟩

/-- The constants of the 64 rounds. -/
def roundConstants : List UInt32 := [
  0x428a2f98, 0x71374491, 0xb5c0fbcf, 0xe9b5dba5, 0x3956c25b, 0x59f111f1, 0x923f82a4, 0xab1c5ed5,
  0xd807aa98, 0x12835b01, 0x243185be, 0x550c7dc3, 0x72be5d74, 0x80deb1fe, 0x9bdc06a7, 0xc19bf174,
  0xe49b69c1, 0xefbe4786, 0x0fc19dc6, 0x240ca1cc, 0x2de92c6f, 0x4a7484aa, 0x5cb0a9dc, 0x76f988da,
  0x983e5152, 0xa831c66d, 0xb00327c8, 0xbf597fc7, 0xc6e00bf3, 0xd5a79147, 0x06ca6351, 0x14292967,
  0x27b70a85, 0x2e1b2138, 0x4d2c6dfc, 0x53380d13, 0x650a7354, 0x766a0abb, 0x81c2c92e, 0x92722c85,
  0xa2bfe8a1, 0xa81a664b, 0xc24b8b70, 0xc76c51a3, 0xd192e819, 0xd6990624, 0xf40e3585, 0x106aa070,
  0x19a4c116, 0x1e376c08, 0x2748774c, 0x34b0bcb5, 0x391c0cb3, 0x4ed8aa4a, 0x5b9cca4f, 0x682e6ff3,
  0x748f82ee, 0x78a5636f, 0x84c87814, 0x8cc70208, 0x90befffa, 0xa4506ceb, 0xbef9a3f7, 0xc67178f2]

/-- Turns a word to the right; the count lies between 1 and 31. -/
def rotate (word count : UInt32) : UInt32 :=
  word >>> count ||| word <<< (32 - count)

/-- The next word of the schedule, from the words before it with the newest in front. -/
def nextWord (newest : List UInt32) : UInt32 :=
  let back (count : Nat) : UInt32 := newest.getD (count - 1) 0
  let early := rotate (back 15) 7 ^^^ rotate (back 15) 18 ^^^ back 15 >>> 3
  let late := rotate (back 2) 17 ^^^ rotate (back 2) 19 ^^^ back 2 >>> 10
  back 16 + early + back 7 + late

/-- Extends the words of a block by a number of scheduled ones; the newest stand in front. -/
def extendSchedule : Nat → List UInt32 → List UInt32
  | 0, newest => newest
  | count + 1, newest => extendSchedule count (nextWord newest :: newest)

/-- One round with its constant and its scheduled word. -/
def round (state : State) (constant word : UInt32) : State :=
  let spread := rotate state.e 6 ^^^ rotate state.e 11 ^^^ rotate state.e 25
  let choice := state.e &&& state.f ^^^ ~~~state.e &&& state.g
  let mixed := state.h + spread + choice + constant + word
  let turned := rotate state.a 2 ^^^ rotate state.a 13 ^^^ rotate state.a 22
  let majority := state.a &&& state.b ^^^ state.a &&& state.c ^^^ state.b &&& state.c
  ⟨mixed + turned + majority, state.a, state.b, state.c, state.d + mixed, state.e, state.f,
    state.g⟩

/-- The big-endian words of a row of bytes. -/
def words : List UInt8 → List UInt32
  | first :: second :: third :: fourth :: rest =>
    (first.toUInt32 <<< 24 ||| second.toUInt32 <<< 16 ||| third.toUInt32 <<< 8 |||
      fourth.toUInt32) :: words rest
  | _ => []

/-- Compresses a block into the state. -/
def compress (state : State) (block : List UInt8) : State :=
  let schedule := (extendSchedule 48 (words block).reverse).reverse
  let next := (roundConstants.zip schedule).foldl (fun state pair => round state pair.1 pair.2)
    state
  ⟨state.a + next.a, state.b + next.b, state.c + next.c, state.d + next.d, state.e + next.e,
    state.f + next.f, state.g + next.g, state.h + next.h⟩

/-- Compresses a number of blocks in order. -/
def compressBlocks : Nat → State → List UInt8 → State
  | 0, state, _ => state
  | count + 1, state, text => compressBlocks count (compress state (text.take 64)) (text.drop 64)

/-- The bytes of a number, the most significant first. -/
def bigEndian : Nat → Nat → List UInt8
  | 0, _ => []
  | count + 1, value => bigEndian count (value / 256) ++ [UInt8.ofNat (value % 256)]

/-- A text filled up to whole blocks: a one bit, zeros, and the number of bits. -/
def pad (text : List UInt8) : List UInt8 :=
  text ++ 0x80 :: List.replicate ((119 - text.length % 64) % 64) 0 ++
    bigEndian 8 (8 * text.length)

/-- The bytes of a state. -/
def State.bytes (state : State) : List UInt8 :=
  [state.a, state.b, state.c, state.d, state.e, state.f, state.g, state.h].flatMap
    fun word => bigEndian 4 word.toNat

/-- The 32 bytes of the digest. -/
def digest (text : List UInt8) : List UInt8 :=
  let padded := pad text
  (compressBlocks (padded.length / 64) initial padded).bytes

end EventCorrelation.Sha256
