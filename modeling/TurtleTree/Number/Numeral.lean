/-
TurtleTree/Number/Numeral.lean

A decimal numeral as it is read from text: a sign, the value of all its digits
and a power of ten.

A text format decides which spellings it accepts and how they become a
`Numeral`; this module decides which number a numeral is.  Two roundings are
offered: to the nearest single at once (`toSingle`), and to the nearest double
first and from there to a single (`toSingleByDouble`), which is what a format
whose numbers are doubles calls for.

Design.  A numeral may carry any exponent, so its size is bounded before a
power of ten is formed: beyond `10 ^ 400` it is infinite in both precisions, and
below `10 ^ -400` it is zero in both.
-/
import TurtleTree.Number.Single

namespace TurtleTree

/-- The decimal number `± digits · 10 ^ scale`. -/
structure Numeral where
  negative : Bool
  digits : Nat
  scale : Int
deriving DecidableEq, Repr

namespace Numeral

/-- Value of a decimal digit. -/
def digitValue (c : Char) : Nat := c.toNat - '0'.toNat

/-- Value of a list of decimal digits. -/
def valueOf (digits : List Char) : Nat := digits.foldl (fun n c => 10 * n + digitValue c) 0

/-- The numeral with the integer digits, fraction digits and exponent given. -/
def ofParts (negative : Bool) (whole fraction : List Char) (exponent : Int) : Numeral :=
  ⟨negative, valueOf (whole ++ fraction), exponent - fraction.length⟩

/-- Size of a numeral, coarse enough to be found without forming the number. -/
inductive Size where
  | zero
  | moderate
  | huge
deriving DecidableEq, Repr

/-- A numeral is `huge` above `10 ^ 400` and counts as `zero` below `10 ^ -400`. -/
def size (n : Numeral) : Size :=
  if n.digits = 0 then .zero
  else if 400 < n.scale + (n.digits.log2 * 3 / 10 : Nat) then .huge
  else if n.scale + ((n.digits.log2 + 1) * 302 / 1000 + 1 : Nat) < -400 then .zero
  else .moderate

/-- The nearest double. -/
def toDouble (n : Numeral) : Float :=
  let x : Float :=
    match n.size with
    | .zero => Float.ofBits 0
    | .huge => Float.ofBits 0x7ff0000000000000
    | .moderate => Float.ofScientific n.digits (decide (n.scale < 0)) n.scale.natAbs
  if n.negative then -x else x

/-- The nearest single. -/
def toSingle (n : Numeral) : Float32 :=
  Single.withSign n.negative <|
    match n.size with
    | .zero => Float32.ofBits 0
    | .huge => Single.infinity
    | .moderate => Float32.ofScientific n.digits (decide (n.scale < 0)) n.scale.natAbs

/-- The single nearest to the nearest double. -/
def toSingleByDouble (n : Numeral) : Float32 := Single.ofDouble n.toDouble

end Numeral

end TurtleTree
