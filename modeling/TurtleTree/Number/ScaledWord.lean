/-
TurtleTree/Number/ScaledWord.lean

Decimal numerals of any length read in double arithmetic.

A reader with one machine word for the digits keeps the leading digits of a
numeral that fit 64 bits and forgets the others.  The word is then turned into a
double and multiplied or divided once by a power of ten.  Up to `2 ^ 53` and
`10 ^ 22` both are exact, so the double is the nearest one; beyond that it may be
a neighbour of it.

Design.  The digits before and behind the point are taken one after the other,
and a part that does not fit is left where it stands: digits left before the
point raise the power of ten, digits left behind it do not.  The double is given
in closed form, by the range that the power of ten is in.
-/
import TurtleTree.Number.Numeral

namespace TurtleTree

/-- The number `word · 10 ^ scale` with a word of 64 bits. -/
structure ScaledWord where
  word : Nat
  scale : Int
deriving DecidableEq, Repr

namespace ScaledWord

/-- Append digits to a word as long as they fit 64 bits; the word reached and the
digits left. -/
def takeDigits : Nat → List Char → Nat × List Char
  | word, [] => (word, [])
  | word, c :: rest =>
    let next := 10 * word + Numeral.digitValue c
    if next < 2 ^ 64 then takeDigits next rest else (word, c :: rest)

/-- The leading digits of the numeral with the integer digits, fraction digits and
exponent given. -/
def ofParts (whole fraction : List Char) (exponent : Int) : ScaledWord :=
  let (word, wholeLeft) := takeDigits 0 whole
  let (word, fractionLeft) := takeDigits word fraction
  ⟨word, exponent + wholeLeft.length - (fraction.length - fractionLeft.length)⟩

/-- The double nearest to a power of ten, for exponents up to 308. -/
def tenPower (n : Nat) : Float := Float.ofScientific 1 false n

/-- The word as a double, scaled.  Nothing if it is too large for a double.  Powers
of ten below `10 ^ -308` are divided by in two steps, and below `10 ^ -616` every
word comes out as zero. -/
def toDouble? (n : ScaledWord) : Option Float :=
  let x := Float.ofScientific n.word false 0
  if 308 < n.scale then
    if n.word = 0 then some x else none
  else if 0 ≤ n.scale then
    let y := x * tenPower n.scale.toNat
    if y.isInf then none else some y
  else if -308 ≤ n.scale then some (x / tenPower n.scale.natAbs)
  else if -616 ≤ n.scale then some (x / tenPower 308 / tenPower (n.scale + 308).natAbs)
  else some (Float.ofBits 0)

end ScaledWord

end TurtleTree
