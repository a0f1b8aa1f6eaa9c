/-
TurtleTree/Number/Decimal.lean

Single precision numbers in decimal.

* `Single.shortest` selects the fewest digits that read back to the same
  number: the reals that round to a number form an interval, and the digits are
  those of the coarsest power-of-ten grid with a point in it.
* `Single.hundredthsText` writes two places, rounding the exact binary value with
  ties to even.

Design.  A value and a grid are brought to one measure, in which an interval test
compares products of naturals, so the whole selection is exact.  For each grid only the two
neighbours of the value have to be tried: if any point of a grid lies in the
interval, one of them does.  Nine digits always suffice; the search is still
closed by the exact decimal value of the number.
-/
import TurtleTree.Number.Single

namespace TurtleTree

/-- The decimal fraction `digits · 10 ^ exponent`. -/
structure Decimal where
  digits : Nat
  exponent : Int
deriving DecidableEq, Repr

namespace Decimal

/-- Remove trailing zeros from the digits, at most `n` of them. -/
def strip : Nat → Decimal → Decimal
  | 0, d => d
  | n + 1, d =>
    if d.digits ≠ 0 ∧ d.digits % 10 = 0 then strip n ⟨d.digits / 10, d.exponent + 1⟩ else d

/-- Power of ten of the leading digit. -/
def leading (d : Decimal) : Int :=
  d.exponent + (Nat.toDigits 10 d.digits).length - 1

/-- The digits as characters. -/
def digitChars (d : Decimal) : List Char := Nat.toDigits 10 d.digits

end Decimal

namespace Single

/-! ### The fewest digits -/

/-- A number of binary units against a grid of decimal steps: one unit of the
mantissa and one step of the grid, in one common measure. -/
structure Gauge where
  unit : Nat
  step : Nat
deriving DecidableEq, Repr

/-- The gauge of a value on the grid of step `10 ^ e`. -/
def gauge (v : Magnitude) (e : Int) : Gauge :=
  ⟨Nat.pow 2 v.exponent.toNat * Nat.pow 10 (-e).toNat,
    Nat.pow 2 (-v.exponent).toNat * Nat.pow 10 e.toNat⟩

/-- The grid point lies among the reals that round to `x`.  The ends of the interval
belong to it exactly when the mantissa is even. -/
def readsBack (x : Float32) (g : Gauge) (digits : Nat) : Bool :=
  let m := (magnitude x).mantissa
  let low := (if narrowBelow x then 4 * m - 1 else 4 * m - 2) * g.unit
  let high := (4 * m + 2) * g.unit
  let point := 4 * digits * g.step
  if m % 2 = 0 then low ≤ point && point ≤ high else low < point && point < high

/-- The neighbour on the grid of step `10 ^ e` that reads back to `x`: the closer
one if both do, and the even one if they are equally close. -/
def onGrid (x : Float32) (e : Int) : Option Decimal :=
  let v := magnitude x
  let g := gauge v e
  let below := v.mantissa * g.unit / g.step
  match readsBack x g below, readsBack x g (below + 1) with
  | false, false => none
  | true, false => some ⟨below, e⟩
  | false, true => some ⟨below + 1, e⟩
  | true, true =>
    -- the middle between the two neighbours against the value, both twice
    match compare ((2 * below + 1) * g.step) (2 * v.mantissa * g.unit) with
    | .gt => some ⟨below, e⟩
    | .lt => some ⟨below + 1, e⟩
    | .eq => some ⟨below + below % 2, e⟩

/-- A power of ten near the value and not above it: the power of two at or below the
value, times the decimal logarithm of two. -/
def tenBelow (v : Magnitude) : Int := (v.exponent + Nat.log2 v.mantissa) * 30103 / 100000

/-- Power of ten above the value: the least `k` from `k₀` on with `value < 10 ^ k`. -/
def scaleFrom (v : Magnitude) : Nat → Int → Int
  | 0, k => k
  | n + 1, k =>
    let g := gauge v k
    if v.mantissa * g.unit < g.step then k else scaleFrom v n (k + 1)

/-- The exact decimal value. -/
def exactDecimal (v : Magnitude) : Decimal :=
  if 0 ≤ v.exponent then ⟨v.mantissa * Nat.pow 2 v.exponent.toNat, 0⟩
  else ⟨v.mantissa * Nat.pow 5 (-v.exponent).toNat, v.exponent⟩

/-- The fewest digits that read back to a finite non-zero number. -/
def shortest (x : Float32) : Decimal :=
  let v := magnitude x
  let scale := scaleFrom v 90 (tenBelow v)
  match (List.range 17).findSome? fun (n : Nat) => onGrid x (scale - n - 1) with
  | some d => d.strip 17
  | none => exactDecimal v

/-! ### A set number of places -/

/-- Text with two places after the point, the exact value rounded to the nearest,
ties to even.  The sign of a zero is kept. -/
def hundredthsText (x : Float32) : String :=
  if x.isNaN then "NaN"
  else
    let body :=
      if x.isInf then ['i', 'n', 'f']
      else
        let n := (magnitude x).scaledHalfEven 100
        Nat.toDigits 10 (n / 100) ++
          ['.', Nat.digitChar (n / 10 % 10), Nat.digitChar (n % 10)]
    String.ofList (if isNegative x then '-' :: body else body)

end Single

end TurtleTree
