/-
TurtleTree/Random/Keystream.lean

The ChaCha keystream with eight rounds, read as a sequence of 32-bit words.

Sixteen words of state stand in four rows of four.  A round mixes the four
columns; turning the rows against each other first makes it mix the diagonals.

Design.  A source is a key and a position: word `n` of the stream is word
`n % 16` of block `n / 16`, so drawing moves a number and nothing else.
-/
namespace TurtleTree

/-- Four words side by side. -/
structure Lanes where
  a : UInt32
  b : UInt32
  c : UInt32
  d : UInt32
deriving DecidableEq, Repr

namespace Lanes

def map (f : UInt32 → UInt32) (r : Lanes) : Lanes := ⟨f r.a, f r.b, f r.c, f r.d⟩

def zip (f : UInt32 → UInt32 → UInt32) (r s : Lanes) : Lanes :=
  ⟨f r.a s.a, f r.b s.b, f r.c s.c, f r.d s.d⟩

/-- Turn the lanes one place to the left. -/
def turn (r : Lanes) : Lanes := ⟨r.b, r.c, r.d, r.a⟩

def toList (r : Lanes) : List UInt32 := [r.a, r.b, r.c, r.d]

end Lanes

/-- Rotate a word to the left. -/
def rotateWord (w : UInt32) (n : UInt32) : UInt32 := (w <<< n) ||| (w >>> (32 - n))

/-- The state of a block, four rows of four words. -/
structure BlockState where
  first : Lanes
  second : Lanes
  third : Lanes
  fourth : Lanes
deriving DecidableEq, Repr

namespace BlockState

/-- Add row `second` to `first`, and mix the sum into `fourth`. -/
def mixUpper (n : UInt32) (s : BlockState) : BlockState :=
  let first := s.first.zip (· + ·) s.second
  { s with first, fourth := (s.fourth.zip (· ^^^ ·) first).map (rotateWord · n) }

/-- Add row `fourth` to `third`, and mix the sum into `second`. -/
def mixLower (n : UInt32) (s : BlockState) : BlockState :=
  let third := s.third.zip (· + ·) s.fourth
  { s with third, second := (s.second.zip (· ^^^ ·) third).map (rotateWord · n) }

/-- Mix every column. -/
def mixColumns (s : BlockState) : BlockState :=
  s.mixUpper 16 |>.mixLower 12 |>.mixUpper 8 |>.mixLower 7

/-- A round on the columns and a round on the diagonals. -/
def doubleRound (s : BlockState) : BlockState :=
  let t := s.mixColumns
  let u := mixColumns
    { t with
      second := t.second.turn
      third := t.third.turn.turn
      fourth := t.fourth.turn.turn.turn }
  { u with
    second := u.second.turn.turn.turn
    third := u.third.turn.turn
    fourth := u.fourth.turn }

/-- Row by row sum of two states. -/
def add (s t : BlockState) : BlockState :=
  ⟨s.first.zip (· + ·) t.first, s.second.zip (· + ·) t.second,
    s.third.zip (· + ·) t.third, s.fourth.zip (· + ·) t.fourth⟩

def toList (s : BlockState) : List UInt32 :=
  s.first.toList ++ s.second.toList ++ s.third.toList ++ s.fourth.toList

end BlockState

/-- The eight words of a key. -/
structure StreamKey where
  low : Lanes
  high : Lanes
deriving DecidableEq, Repr

namespace StreamKey

/-- The step of the generator that spreads a seed over a key. -/
def advanceSeed (state : UInt64) : UInt64 := state * 6364136223846793005 + 11634580027462260723

/-- The key word drawn from a state of that generator. -/
def seedWord (state : UInt64) : UInt32 :=
  let word := (((state >>> 18) ^^^ state) >>> 27).toUInt32
  let turn := (state >>> 59).toUInt32
  if turn = 0 then word else (word >>> turn) ||| (word <<< (32 - turn))

/-- The key of a 64-bit seed: the words of eight steps of a small generator. -/
def ofSeed (seed : UInt64) : StreamKey :=
  let s1 := advanceSeed seed
  let s2 := advanceSeed s1
  let s3 := advanceSeed s2
  let s4 := advanceSeed s3
  let s5 := advanceSeed s4
  let s6 := advanceSeed s5
  let s7 := advanceSeed s6
  let s8 := advanceSeed s7
  ⟨⟨seedWord s1, seedWord s2, seedWord s3, seedWord s4⟩,
    ⟨seedWord s5, seedWord s6, seedWord s7, seedWord s8⟩⟩

/-- The state a block starts from: constants, key, block counter and stream zero. -/
def blockStart (k : StreamKey) (counter : Nat) : BlockState :=
  ⟨⟨0x61707865, 0x3320646e, 0x79622d32, 0x6b206574⟩, k.low, k.high,
    ⟨UInt32.ofNat (counter % 2 ^ 32), UInt32.ofNat (counter / 2 ^ 32 % 2 ^ 32), 0, 0⟩⟩

/-- The sixteen words of a block: eight rounds, then the start added. -/
def block (k : StreamKey) (counter : Nat) : List UInt32 :=
  let s := k.blockStart counter
  (s.doubleRound.doubleRound.doubleRound.doubleRound.add s).toList

/-- Word `n` of the keystream. -/
def word (k : StreamKey) (n : Nat) : UInt32 := (k.block (n / 16)).getD (n % 16) 0

end StreamKey

/-- A place in a keystream. -/
structure WordSource where
  key : StreamKey
  position : Nat
deriving DecidableEq, Repr

namespace WordSource

/-- The beginning of the keystream of a seed. -/
def ofSeed (seed : UInt64) : WordSource := ⟨StreamKey.ofSeed seed, 0⟩

/-- The next word. -/
def next (s : WordSource) : UInt32 × WordSource :=
  (s.key.word s.position, { s with position := s.position + 1 })

/-- The next two words as one number, the first word being the low half. -/
def nextPair (s : WordSource) : UInt64 × WordSource :=
  let (low, s) := s.next
  let (high, s) := s.next
  (low.toUInt64 ||| (high.toUInt64 <<< 32), s)

end WordSource

end TurtleTree
