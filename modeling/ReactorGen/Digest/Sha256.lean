/-!
# SHA-256

The digest of a text under the secure hash standard with 256 bits: the bytes of
the text are padded to whole blocks, each block is spread over a schedule of
words, and the schedule is mixed into a state of eight words.
-/

namespace ReactorGen
namespace Sha256

/-- The eight words that are carried from block to block. -/
structure State where
  a : UInt32
  b : UInt32
  c : UInt32
  d : UInt32
  e : UInt32
  f : UInt32
  g : UInt32
  h : UInt32
deriving DecidableEq, Repr

/-- The state before the first block: the first bits of the fractions of the
square roots of the first eight primes. -/
def initial : State where
  a := 0x6a09e667
  b := 0xbb67ae85
  c := 0x3c6ef372
  d := 0xa54ff53a
  e := 0x510e527f
  f := 0x9b05688c
  g := 0x1f83d9ab
  h := 0x5be0cd19

/-- The words that are added in the rounds: the first bits of the fractions of
the cube roots of the first 64 primes. -/
def roundWords : List UInt32 := [
  0x428a2f98, 0x71374491, 0xb5c0fbcf, 0xe9b5dba5, 0x3956c25b, 0x59f111f1,
  0x923f82a4, 0xab1c5ed5, 0xd807aa98, 0x12835b01, 0x243185be, 0x550c7dc3,
  0x72be5d74, 0x80deb1fe, 0x9bdc06a7, 0xc19bf174, 0xe49b69c1, 0xefbe4786,
  0x0fc19dc6, 0x240ca1cc, 0x2de92c6f, 0x4a7484aa, 0x5cb0a9dc, 0x76f988da,
  0x983e5152, 0xa831c66d, 0xb00327c8, 0xbf597fc7, 0xc6e00bf3, 0xd5a79147,
  0x06ca6351, 0x14292967, 0x27b70a85, 0x2e1b2138, 0x4d2c6dfc, 0x53380d13,
  0x650a7354, 0x766a0abb, 0x81c2c92e, 0x92722c85, 0xa2bfe8a1, 0xa81a664b,
  0xc24b8b70, 0xc76c51a3, 0xd192e819, 0xd6990624, 0xf40e3585, 0x106aa070,
  0x19a4c116, 0x1e376c08, 0x2748774c, 0x34b0bcb5, 0x391c0cb3, 0x4ed8aa4a,
  0x5b9cca4f, 0x682e6ff3, 0x748f82ee, 0x78a5636f, 0x84c87814, 0x8cc70208,
  0x90befffa, 0xa4506ceb, 0xbef9a3f7, 0xc67178f2
]

/-- Rotate a word to the right. -/
def rotateRight (word amount : UInt32) : UInt32 :=
  (word >>> amount) ||| (word <<< (32 - amount))

/-- The function that the schedule applies to the word two places back. -/
def scheduleNear (word : UInt32) : UInt32 :=
  rotateRight word 17 ^^^ rotateRight word 19 ^^^ (word >>> 10)

/-- The function that the schedule applies to the word fifteen places back. -/
def scheduleFar (word : UInt32) : UInt32 :=
  rotateRight word 7 ^^^ rotateRight word 18 ^^^ (word >>> 3)

/-- The bytes after the message: one bit, zeros up to eight bytes before the end
of a block, and the length of the message in bits. -/
def padding (length : Nat) : List UInt8 :=
  let zeros : List UInt8 := List.replicate ((119 - length % 64) % 64) 0
  let bitCount :=
    (List.range 8).map fun place => UInt8.ofNat ((8 * length) >>> (8 * (7 - place)))
  0x80 :: (zeros ++ bitCount)

/-- The words that consecutive groups of four bytes stand for, most significant
byte first. -/
def words : List UInt8 -> List UInt32
  | first :: second :: third :: fourth :: rest =>
    (first.toUInt32 <<< 24 ||| second.toUInt32 <<< 16 |||
      third.toUInt32 <<< 8 ||| fourth.toUInt32) :: words rest
  | _ => []

/-- The next word of a schedule that is given last word first. -/
def nextWord (recent : List UInt32) : UInt32 :=
  scheduleNear (recent.getD 1 0) + recent.getD 6 0 +
    scheduleFar (recent.getD 14 0) + recent.getD 15 0

/-- A schedule, last word first, with some more words. -/
def extendSchedule : Nat -> List UInt32 -> List UInt32
  | 0, recent => recent
  | count + 1, recent => extendSchedule count (nextWord recent :: recent)

/-- The 64 words of the schedule for a block of 16 words. -/
def schedule (block : List UInt32) : List UInt32 :=
  (extendSchedule 48 block.reverse).reverse

/-- Mix one word of the schedule and one round word into the state. -/
def round (state : State) (added : UInt32 × UInt32) : State :=
  let ⟨a, b, c, d, e, f, g, h⟩ := state
  let mixed := rotateRight e 6 ^^^ rotateRight e 11 ^^^ rotateRight e 25
  let choice := (e &&& f) ^^^ (~~~e &&& g)
  let first := h + mixed + choice + added.1 + added.2
  let spread := rotateRight a 2 ^^^ rotateRight a 13 ^^^ rotateRight a 22
  let majority := (a &&& b) ^^^ (a &&& c) ^^^ (b &&& c)
  ⟨first + (spread + majority), a, b, c, d + first, e, f, g⟩

/-- Mix a block into the state. -/
def compress (state : State) (block : List UInt32) : State :=
  let mixed := (roundWords.zip (schedule block)).foldl round state
  ⟨state.a + mixed.a, state.b + mixed.b, state.c + mixed.c, state.d + mixed.d,
    state.e + mixed.e, state.f + mixed.f, state.g + mixed.g, state.h + mixed.h⟩

/-- Mix a number of blocks of 16 words into the state. -/
def compressBlocks : Nat -> State -> List UInt32 -> State
  | 0, state, _ => state
  | count + 1, state, message =>
    compressBlocks count (compress state (message.take 16)) (message.drop 16)

/-- The digest of a message. -/
def digest (message : List UInt8) : State :=
  let padded := words (message ++ padding message.length)
  compressBlocks (padded.length / 16) initial padded

/-- A word in eight hexadecimal digits. -/
def hexWord (word : UInt32) : String :=
  String.ofList
    ((List.range 8).map fun place =>
      Nat.digitChar ((word.toNat >>> (4 * (7 - place))) % 16))

/-- The words of a state in hexadecimal digits. -/
def State.hex (state : State) : String :=
  hexWord state.a ++ hexWord state.b ++ hexWord state.c ++ hexWord state.d ++
    hexWord state.e ++ hexWord state.f ++ hexWord state.g ++ hexWord state.h

/-- The digest of a text in hexadecimal digits. -/
def ofText (text : String) : String :=
  (digest text.toUTF8.toList).hex

end Sha256
end ReactorGen
