/-
TurtleTree/Random/Variance.lean

Tables of random scalars that perturb the turns of the turtle, and the seeded
provider that draws them.

A table holds a hundred scalars between -1 and 1.  Four of them are read, one
per class of turning symbol, so all turns of a class share one perturbation.

Design.  Drawing an index repeats until a draw falls into the part of the 64-bit
range that divides evenly.  Each draw does so with probability above one half;
the repetitions are bounded by a number that no stream reaches, and the last
draw, which is below the bound like any other, closes the recursion.
-/
import TurtleTree.Random.Keystream

namespace TurtleTree

/-! ### Tables -/

/-- The class of a turning symbol. -/
inductive VarianceSlot where
  /-- Positive yaw about world up. -/
  | yaw
  /-- Negative yaw about world up. -/
  | yawInverse
  /-- Positive roll about the forward axis. -/
  | roll
  /-- Negative roll about the forward axis. -/
  | rollInverse
deriving DecidableEq, Repr

namespace VarianceSlot

/-- Place of the slot in a table. -/
def index : VarianceSlot → Fin 100
  | yaw => 0
  | yawInverse => 1
  | roll => 2
  | rollInverse => 3

end VarianceSlot

/-- A hundred scalars. -/
structure VarianceTable where
  values : Vector Float32 100
deriving BEq, DecidableEq

namespace VarianceTable

/-- The table without perturbation. -/
def zero : VarianceTable := ⟨Vector.replicate 100 0⟩

instance : Inhabited VarianceTable := ⟨zero⟩

/-- The scalar for a class of symbols. -/
def slot (t : VarianceTable) (s : VarianceSlot) : Float32 := t.values[s.index]

end VarianceTable

/-! ### Drawing -/

/-- A seeded source of tables and indices. -/
structure VarianceProvider where
  source : WordSource
deriving DecidableEq, Repr

namespace VarianceProvider

/-- The provider of a seed, before its first draw. -/
def ofSeed (seed : UInt64) : VarianceProvider := ⟨WordSource.ofSeed seed⟩

/-- The scalar of a word: 23 bits become a number from 1 to 2, which is moved to
the range from -1 to 1. -/
def scalar (word : UInt32) : Float32 :=
  let unit := Float32.ofBits ((word >>> 9) ||| 0x3f800000) - 1
  unit * Float32.ofBits 0x40000001 + (-1)

/-- A fresh table, drawn from the next hundred words. -/
def redraw (p : VarianceProvider) : VarianceTable × VarianceProvider :=
  let blocks := (List.range 8).toArray.flatMap fun i =>
    (p.source.key.block (p.source.position / 16 + i)).toArray
  let offset := p.source.position % 16
  (⟨Vector.ofFn fun i => scalar (blocks.getD (offset + i) 0)⟩,
    ⟨{ p.source with position := p.source.position + 100 }⟩)

/-- Draws of an index below `n`, at most `tries + 1` of them. -/
def drawBelow (n zone : Nat) : Nat → WordSource → Nat × WordSource
  | tries, source =>
    let (word, rest) := source.nextPair
    let product := word.toNat * n
    match tries with
    | 0 => (product / 2 ^ 64, rest)
    | more + 1 =>
      if product % 2 ^ 64 ≤ zone then (product / 2 ^ 64, rest) else drawBelow n zone more rest

/-- The largest part of the 64-bit range whose length is `n` times a power of two,
as its last number. -/
def evenZone (n : Nat) : Nat := n * Nat.pow 2 (63 - n.log2) - 1

/-- A uniform index below `n`; none when `n` is zero. -/
def drawIndex (p : VarianceProvider) (n : Nat) : Option Nat × VarianceProvider :=
  if n = 0 then (none, p)
  else
    let (index, source) := drawBelow n (evenZone n) 4096 p.source
    (some index, ⟨source⟩)

end VarianceProvider

end TurtleTree
