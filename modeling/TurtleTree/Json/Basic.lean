/-
TurtleTree/Json/Basic.lean

JSON values with numbers and strings as they are written.

Design.  A reader that skips a value need not know which number or text it is,
and JSON sets no bound to either.  So a number keeps its digits and a string the
characters between its quotes, and what they stand for is asked for separately
(`JsonNumber.toSingle?`, `Json.text?`).
-/
import TurtleTree.Number.Decimal
import TurtleTree.Number.ScaledWord
import TurtleTree.Text.Octets

namespace TurtleTree

/-- A number as it is written: its sign, the digits before and behind the point,
and the exponent.  Without a point there are no digits behind it. -/
structure JsonNumber where
  negative : Bool
  whole : List Char
  fraction : List Char
  exponent : Option Int
deriving DecidableEq, Repr

/-- A JSON value.  The characters of strings and keys stand for octets, with
escapes as they are written. -/
inductive Json where
  | null
  | bool (b : Bool)
  | number (n : JsonNumber)
  | string (raw : List Char)
  | array (items : List Json)
  | object (members : List (List Char × Json))
deriving Repr

namespace JsonNumber

/-- The number is written without a point and without an exponent. -/
def isInteger (n : JsonNumber) : Bool := n.fraction.isEmpty && n.exponent.isNone

/-- The number that is meant. -/
def toNumeral (n : JsonNumber) : Numeral :=
  Numeral.ofParts n.negative n.whole n.fraction (n.exponent.getD 0)

/-- The written form of an integer. -/
def ofInt (n : Int) : JsonNumber := ⟨decide (n < 0), Nat.toDigits 10 n.natAbs, [], none⟩

/-- The integer that is meant, if the number is written as one.  Minus zero is
not an integer. -/
def toInt? (n : JsonNumber) : Option Int :=
  if !n.isInteger then none
  else
    let magnitude := Numeral.valueOf n.whole
    if !n.negative then some magnitude
    else if magnitude = 0 then none
    else some (-(magnitude : Int))

/-! ### Singles -/

/-- The layout of a decimal: positional when its leading digit stands between
`10 ^ -6` and `10 ^ 12`, with at least one digit on each side of the point;
otherwise with an exponent, and with a point only if digits follow it. -/
def ofDecimal (negative : Bool) (d : Decimal) : JsonNumber :=
  let ds := d.digitChars
  let e := d.leading
  if e < -6 ∨ 12 < e then ⟨negative, ds.take 1, ds.drop 1, some e⟩
  else if e < 0 then ⟨negative, ['0'], List.replicate (e.natAbs - 1) '0' ++ ds, none⟩
  else if 0 ≤ d.exponent then ⟨negative, ds ++ List.replicate d.exponent.toNat '0', ['0'], none⟩
  else ⟨negative, ds.take (e.toNat + 1), ds.drop (e.toNat + 1), none⟩

/-- A finite number in the fewest digits that identify it. -/
def ofSingle (x : Float32) : JsonNumber :=
  if (Single.magnitude x).mantissa = 0 then ⟨Single.isNegative x, ['0'], ['0'], none⟩
  else ofDecimal (Single.isNegative x) (Single.shortest x)

/-- The double that is meant, as far as its leading digits tell. -/
def toDouble? (n : JsonNumber) : Option Float :=
  ((ScaledWord.ofParts n.whole n.fraction (n.exponent.getD 0)).toDouble?).map fun x =>
    if n.negative then -x else x

/-- The single that is meant.  An integer of 64 bits is rounded at once, any other
number is read as a double first; what no double holds is refused. -/
def toSingle? (n : JsonNumber) : Option Float32 :=
  let isWord : Bool :=
    match n.toInt? with
    | some i => -(2 ^ 63 : Int) ≤ i && i < 2 ^ 64
    | none => false
  if isWord then some n.toNumeral.toSingle else n.toDouble?.map Single.ofDouble

end JsonNumber

namespace Json

/-- A string or key whose characters need no escape. -/
def plain (text : String) : List Char := text.toList

/-- An object with keys whose characters need no escape. -/
def record (members : List (String × Json)) : Json :=
  .object (members.map fun (key, value) => (plain key, value))

def ofNat (n : Nat) : Json := .number (JsonNumber.ofInt n)

def ofInt (n : Int) : Json := .number (JsonNumber.ofInt n)

/-- A finite number; `null` stands for every other one. -/
def ofSingle (x : Float32) : Json :=
  if x.isNaN || x.isInf then .null else .number (JsonNumber.ofSingle x)

end Json

end TurtleTree
