/-
TurtleTree/Number/Single.lean

Single precision numbers and the exact values they stand for.

Arithmetic on lengths, angles and positions is `Float32` arithmetic, rounded
after every operation.  What is left to say here are the operations that look
at a number as an exact binary fraction `± mantissa · 2 ^ exponent`: they are
carried out in `Nat` and `Int` and rounded once at the end.

Design.  Every binary fraction is also a decimal fraction, because
`2 ^ (-n) = 5 ^ n · 10 ^ (-n)`.  So the nearest single of an exact value is
`Float32.ofScientific` of its decimal form, and no second rounding function is
needed (`Single.ofMagnitude`).
-/
namespace TurtleTree

-- A power is the same whether or not a library with powers in monoids is loaded beside this
-- module: those of literals by this default, and those with a computed exponent by name.
attribute [default_instance 20000] instPowNat

/-- The exact value `mantissa · 2 ^ exponent` of a non-negative number. -/
structure Magnitude where
  mantissa : Nat
  exponent : Int
deriving DecidableEq, Repr

namespace Magnitude

/-- The integer nearest to the value, a half going up. -/
def roundHalfUp (v : Magnitude) : Nat :=
  if 0 ≤ v.exponent then v.mantissa * Nat.pow 2 v.exponent.toNat
  else (2 * v.mantissa + Nat.pow 2 (-v.exponent).toNat) / Nat.pow 2 ((-v.exponent).toNat + 1)

/-- The integer nearest to `value · scale`, a half going to the even neighbour. -/
def scaledHalfEven (v : Magnitude) (scale : Nat) : Nat :=
  if 0 ≤ v.exponent then v.mantissa * Nat.pow 2 v.exponent.toNat * scale
  else
    let unit := Nat.pow 2 (-v.exponent).toNat
    let whole := v.mantissa * scale / unit
    let rest := v.mantissa * scale % unit
    if 2 * rest < unit then whole
    else if unit < 2 * rest then whole + 1
    else if whole % 2 = 0 then whole else whole + 1

end Magnitude

namespace Single

/-! ### Bits and exact values -/

/-- The sign bit. -/
def isNegative (x : Float32) : Bool := 2 ^ 31 ≤ x.toBits.toNat

/-- Exponent field of the bits. -/
def exponentField (x : Float32) : Nat := x.toBits.toNat / 2 ^ 23 % 2 ^ 8

/-- Fraction field of the bits. -/
def fractionField (x : Float32) : Nat := x.toBits.toNat % 2 ^ 23

/-- The exact absolute value of a finite number. -/
def magnitude (x : Float32) : Magnitude :=
  if exponentField x = 0 then ⟨fractionField x, -149⟩
  else ⟨2 ^ 23 + fractionField x, (exponentField x : Int) - 150⟩

/-- The neighbour below a power of two is half as far away as the one above. -/
def narrowBelow (x : Float32) : Bool :=
  fractionField x = 0 && 1 < exponentField x

/-- The number with the sign given and the absolute value of `x`. -/
def withSign (negative : Bool) (x : Float32) : Float32 :=
  if negative then -x else x

/-- The single nearest to an exact value, ties to even, with the sign given. -/
def ofMagnitude (negative : Bool) (v : Magnitude) : Float32 :=
  withSign negative <|
    if 0 ≤ v.exponent then
      Float32.ofScientific (v.mantissa * Nat.pow 2 v.exponent.toNat) false 0
    else
      Float32.ofScientific (v.mantissa * Nat.pow 5 (-v.exponent).toNat) true (-v.exponent).toNat

def infinity : Float32 := Float32.ofBits 0x7f800000

def notANumber : Float32 := Float32.ofBits 0x7fc00000

/-- The single nearest to a double, ties to even. -/
def ofDouble (d : Float) : Float32 :=
  let bits : Nat := d.toBits.toNat
  let negative := decide (2 ^ 63 ≤ bits)
  let exponent : Nat := bits / 2 ^ 52 % 2 ^ 11
  let fraction : Nat := bits % 2 ^ 52
  if exponent = 2047 then
    if fraction = 0 then withSign negative infinity else notANumber
  else if exponent = 0 then ofMagnitude negative ⟨fraction, -1074⟩
  else ofMagnitude negative ⟨2 ^ 52 + fraction, (exponent : Int) - 1075⟩

/-! ### Order -/

/-- The larger of two numbers; an operand that is not a number is ignored. -/
def max (x y : Float32) : Float32 :=
  if x.isNaN then y else if y.isNaN then x else if x < y then y else x

/-- The smaller of two numbers; an operand that is not a number is ignored. -/
def min (x y : Float32) : Float32 :=
  if x.isNaN then y else if y.isNaN then x else if y < x then y else x

/-- The number nearest to `x` between the bounds.  What is not a number stays so. -/
def clamp (low high x : Float32) : Float32 :=
  if x < low then low else if high < x then high else x

/-! ### Integers and remainders -/

/-- The nearest 32-bit integer, halves away from zero, the ends of the range
standing for everything beyond them. -/
def toInt32 (x : Float32) : Int :=
  if x.isNaN then 0
  else
    let n : Nat := if x.isInf then 2 ^ 32 else (magnitude x).roundHalfUp
    if isNegative x then Max.max (-(2 ^ 31 : Int)) (-(n : Int))
    else Min.min (2 ^ 31 - 1 : Int) (n : Int)

/-- Exact remainder of the division truncated towards zero, with the sign of `x`. -/
def remainder (x y : Float32) : Float32 :=
  if x.isNaN || y.isNaN || x.isInf || y == 0 then notANumber
  else if y.isInf then x
  else
    let v := magnitude x
    let w := magnitude y
    let unit := Min.min v.exponent w.exponent
    let a := v.mantissa * Nat.pow 2 (v.exponent - unit).toNat
    let b := w.mantissa * Nat.pow 2 (w.exponent - unit).toNat
    ofMagnitude (isNegative x) ⟨a % b, unit⟩

/-- Remainder moved to `0 ≤ r < y` for a positive `y`, up to one rounding. -/
def remainderNonneg (x y : Float32) : Float32 :=
  let r := remainder x y
  if r < 0 then r + y.abs else r

end Single

end TurtleTree
