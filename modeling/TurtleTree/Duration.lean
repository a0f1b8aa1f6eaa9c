/-
TurtleTree/Duration.lean

Spans of time with a resolution of one nanosecond.

Design.  A duration is a natural number of nanoseconds below `2 ^ 64` seconds,
and the bound is part of the type.  Sums stop at the longest duration instead of
wrapping.
-/
import TurtleTree.Number.Single

namespace TurtleTree

/-- A span of time below `2 ^ 64` seconds. -/
structure Duration where
  nanoseconds : Nat
  bounded : nanoseconds < 2 ^ 64 * 10 ^ 9
deriving DecidableEq

namespace Duration

def zero : Duration := ⟨0, by decide⟩

instance : Inhabited Duration := ⟨zero⟩

/-- The longest duration, one nanosecond short of `2 ^ 64` seconds. -/
def longest : Duration := ⟨2 ^ 64 * 10 ^ 9 - 1, by decide⟩

/-- The duration of `n` nanoseconds, or the longest one. -/
def saturating (n : Nat) : Duration :=
  if h : n < 2 ^ 64 * 10 ^ 9 then ⟨n, h⟩ else longest

/-- The duration of `n` nanoseconds, if there is one. -/
def ofNanoseconds? (n : Nat) : Option Duration :=
  if h : n < 2 ^ 64 * 10 ^ 9 then some ⟨n, h⟩ else none

/-- A number of milliseconds that fits into 64 bits. -/
def ofMilliseconds (n : UInt64) : Duration :=
  ⟨n.toNat * 10 ^ 6, by have := n.toNat_lt; omega⟩

/-- Whole seconds. -/
def seconds (d : Duration) : Nat := d.nanoseconds / 10 ^ 9

/-- Nanoseconds beyond the whole seconds. -/
def subsecond (d : Duration) : Nat := d.nanoseconds % 10 ^ 9

/-- Sum that stops at the longest duration. -/
def add (d e : Duration) : Duration := saturating (d.nanoseconds + e.nanoseconds)

instance : Add Duration := ⟨add⟩
instance : LE Duration := ⟨fun d e => d.nanoseconds ≤ e.nanoseconds⟩
instance (d e : Duration) : Decidable (d ≤ e) :=
  inferInstanceAs (Decidable (d.nanoseconds ≤ e.nanoseconds))

/-- Seconds as a single: whole seconds and nanoseconds are rounded apart. -/
def toSingle (d : Duration) : Float32 :=
  Float32.ofNat d.seconds + Float32.ofNat d.subsecond / 1000000000

/-- A non-negative number of seconds, rounded to the nearest nanosecond, ties to
even.  There is none from `2 ^ 64` seconds on. -/
def ofSingle? (x : Float32) : Option Duration :=
  if x.isNaN || x.isInf then none
  else ofNanoseconds? ((Single.magnitude x).scaledHalfEven (10 ^ 9))

end Duration

end TurtleTree
