/-!
# Cosmac — random numbers

Random bytes come from the ChaCha stream cipher with twelve rounds. Its key is made from a
sixty-four-bit seed, or comes from outside as it is; the stream is the sequence of output words of
its blocks, from block zero on.

A `Generator` is a key and a position in the stream. `Generator.word` is the whole stream as a
function of the position, so what the next draw gives does not depend on how the position was
reached.
-/

namespace Cosmac

/-! ## The cipher

A block of the stream is sixteen words: constants, key and block number, mixed by rounds of
additions, rotations and exclusive ors. -/

namespace ChaCha

/-- The sixteen words that the rounds work on. -/
abbrev State := Vector UInt32 16

/-- The 256 bits that the cipher keeps secret, as words. -/
abbrev Key := Vector UInt32 8

/-- Rotation to the left, for amounts between one and thirty-one bits. -/
def rotateLeft (w : UInt32) (n : UInt32) : UInt32 :=
  (w <<< n) ||| (w >>> (32 - n))

/-- Mixes the four words with the given numbers. -/
def quarterRound (s : State) (ia ib ic id : Nat) (ha : ia < 16 := by decide)
    (hb : ib < 16 := by decide) (hc : ic < 16 := by decide) (hd : id < 16 := by decide) : State :=
  let a := s[ia] + s[ib]
  let d := rotateLeft (s[id] ^^^ a) 16
  let c := s[ic] + d
  let b := rotateLeft (s[ib] ^^^ c) 12
  let a := a + b
  let d := rotateLeft (d ^^^ a) 8
  let c := c + d
  let b := rotateLeft (b ^^^ c) 7
  (((s.set ia a).set ib b).set ic c).set id d

/-- A round on the columns of the state, then one on its diagonals. -/
def doubleRound (s : State) : State :=
  let s := quarterRound s 0 4 8 12
  let s := quarterRound s 1 5 9 13
  let s := quarterRound s 2 6 10 14
  let s := quarterRound s 3 7 11 15
  let s := quarterRound s 0 5 10 15
  let s := quarterRound s 1 6 11 12
  let s := quarterRound s 2 7 8 13
  quarterRound s 3 4 9 14

/-- The state of a block before its rounds: four constants, the key, the number of the block as
two words, and two zeros. -/
def initial (key : Key) (block : UInt64) : State :=
  #v[0x61707865, 0x3320646e, 0x79622d32, 0x6b206574,
    key[0], key[1], key[2], key[3], key[4], key[5], key[6], key[7],
    block.toUInt32, (block >>> 32).toUInt32, 0, 0]

/-- The output words of a block. -/
def output (key : Key) (block : UInt64) : State :=
  let start := initial key block
  let mixed := Nat.repeat doubleRound 6 start
  -- without this sum the rounds could be undone
  Vector.zipWith (· + ·) mixed start

end ChaCha

/-! ## Keys from seeds -/

namespace Seed

/-- A linear congruential step. -/
def advance (s : UInt64) : UInt64 :=
  s * 6364136223846793005 + 11634580027462260723

/-- The word that a state yields: its high bits folded together and rotated by the highest. -/
def word (s : UInt64) : UInt32 :=
  let folded := (((s >>> 18) ^^^ s) >>> 27).toUInt32
  let amount := (s >>> 59).toUInt32
  -- a rotation by nothing shifts by nothing on both sides
  (folded >>> amount) ||| (folded <<< ((32 - amount) % 32))

/-- The key of a seed: the words of the first eight states after it. -/
def key (seed : UInt64) : ChaCha.Key :=
  Vector.ofFn fun k => word (Nat.repeat advance (k.val + 1) seed)

end Seed

/-! ## The stream

One byte is drawn from one word, whose other three bytes are passed over. -/

/-- A place in the stream of a key. -/
structure Generator where
  key : ChaCha.Key
  position : Nat
  deriving DecidableEq

namespace Generator

/-- The start of the stream of a key. -/
def ofKey (key : ChaCha.Key) : Generator :=
  ⟨key, 0⟩

/-- The start of the stream of a seed. -/
def ofSeed (seed : UInt64) : Generator :=
  .ofKey (Seed.key seed)

/-- The start of the stream of a seed that may be given, and otherwise of the key `entropy`. -/
def start (seed : Option UInt64) (entropy : ChaCha.Key) : Generator :=
  .ofKey ((seed.map Seed.key).getD entropy)

/-- The word at position `n` of the stream, wherever the generator stands in it. -/
def word (g : Generator) (n : Nat) : UInt32 :=
  (ChaCha.output g.key (UInt64.ofNat (n / 16)))[n % 16]

/-- The low byte of the next word, and the generator past that word. -/
def nextByte (g : Generator) : UInt8 × Generator :=
  ((g.word g.position).toUInt8, { g with position := g.position + 1 })

end Generator

end Cosmac
