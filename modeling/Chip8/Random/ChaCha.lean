import Chip8.Random

/-!
# The seeded random source

The key stream of the ChaCha cipher with twelve rounds, under a key that is spread out from a seed of 64 bits. Word
number `k` of the stream is word `k % 16` of block `k / 16`.
-/

namespace Chip8.Random.ChaCha

abbrev Block := Vector UInt32 16

def rotateLeft (w : UInt32) (bits : UInt32) : UInt32 :=
  w <<< bits ||| w >>> (32 - bits)

/-- Rotates to the right; a rotation by 0 changes nothing. -/
def rotateRight (w : UInt32) (bits : UInt32) : UInt32 :=
  w >>> bits ||| w <<< (32 - bits)

/-- Word number `i` of a block. -/
def wordAt (s : Block) (i : Nat) : UInt32 :=
  (s[i]?).getD 0

/-- Adds word `j` to word `i`. -/
def addInto (s : Block) (i j : Nat) : Block :=
  s.setIfInBounds i (wordAt s i + wordAt s j)

/-- Joins word `j` to word `i` by exclusive or, and turns the result to the left. -/
def mixInto (s : Block) (i j : Nat) (bits : UInt32) : Block :=
  s.setIfInBounds i (rotateLeft (wordAt s i ^^^ wordAt s j) bits)

/-- Mixes four words of a block. -/
def quarterRound (s : Block) (a b c d : Nat) : Block :=
  let s := mixInto (addInto s a b) d a 16
  let s := mixInto (addInto s c d) b c 12
  let s := mixInto (addInto s a b) d a 8
  mixInto (addInto s c d) b c 7

/-- A round down the columns and a round down the diagonals. -/
def doubleRound (s : Block) : Block :=
  let s := quarterRound s 0 4 8 12
  let s := quarterRound s 1 5 9 13
  let s := quarterRound s 2 6 10 14
  let s := quarterRound s 3 7 11 15
  let s := quarterRound s 0 5 10 15
  let s := quarterRound s 1 6 11 12
  let s := quarterRound s 2 7 8 13
  quarterRound s 3 4 9 14

/-- The block before mixing: four constants, the key, a counter of 64 bits and a nonce of zeros. -/
def initialBlock (key : Vector UInt32 8) (counter : UInt64) : Block :=
  #v[0x61707865, 0x3320646e, 0x79622d32, 0x6b206574,
     key[0], key[1], key[2], key[3], key[4], key[5], key[6], key[7],
     counter.toUInt32, (counter >>> 32).toUInt32, 0, 0]

/-- A block of the key stream: twelve rounds, and the block before them added. -/
def block (key : Vector UInt32 8) (counter : UInt64) : Block :=
  let start := initialBlock key counter
  Vector.zipWith (· + ·) (Nat.repeat doubleRound 6 start) start

/-- The state after `s` of the generator that spreads a seed. -/
def nextSeedState (s : UInt64) : UInt64 :=
  s * 6364136223846793005 + 11634580027462260723

/-- The word that a state of the spreading generator gives. -/
def seedWord (s : UInt64) : UInt32 :=
  rotateRight (((s >>> 18 ^^^ s) >>> 27).toUInt32) (s >>> 59).toUInt32

/-- The state of the spreading generator after `k + 1` steps from a seed. -/
def seedState (seed : UInt64) (k : Nat) : UInt64 :=
  Nat.repeat nextSeedState (k + 1) seed

def keyOfSeed (seed : UInt64) : Vector UInt32 8 :=
  Vector.ofFn fun k => seedWord (seedState seed k)

end ChaCha

/-- The key stream of a key, read up to a position. -/
structure Seeded where
  key : Vector UInt32 8
  taken : Nat
deriving DecidableEq

namespace Seeded

def ofSeed (seed : UInt64) : Seeded where
  key := ChaCha.keyOfSeed seed
  taken := 0

/-- Word number `k` of the stream. -/
def word (s : Seeded) (k : Nat) : UInt32 :=
  ChaCha.wordAt (ChaCha.block s.key (UInt64.ofNat (k / 16))) (k % 16)

instance : RandomSource Seeded where
  next s := (s.word s.taken, { s with taken := s.taken + 1 })

end Seeded

end Chip8.Random
