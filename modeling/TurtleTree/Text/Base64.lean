/-
TurtleTree/Text/Base64.lean

Base64 with the standard alphabet and without padding.

Three octets are four symbols of six bits.  One octet left over is two symbols,
two are three, and the bits of the last symbol that carry nothing are zero.
Reading is strict: a length that no octets have, a character outside the
alphabet, or a last symbol with other unused bits is refused, so every list of
octets has a single written form.
-/
namespace TurtleTree

namespace Base64

/-! ### Symbols -/

/-- The symbol of a six-bit number. -/
def symbol (n : Nat) : Char :=
  if n < 26 then Char.ofNat ('A'.toNat + n)
  else if n < 52 then Char.ofNat ('a'.toNat + (n - 26))
  else if n < 62 then Char.ofNat ('0'.toNat + (n - 52))
  else if n = 62 then '+'
  else '/'

/-- The six-bit number of a symbol. -/
def index? (c : Char) : Option Nat :=
  if 'A' ≤ c ∧ c ≤ 'Z' then some (c.toNat - 'A'.toNat)
  else if 'a' ≤ c ∧ c ≤ 'z' then some (c.toNat - 'a'.toNat + 26)
  else if '0' ≤ c ∧ c ≤ '9' then some (c.toNat - '0'.toNat + 52)
  else if c = '+' then some 62
  else if c = '/' then some 63
  else none

/-! ### Writing -/

/-- The symbols of a list of octets. -/
def encode : List UInt8 → List Char
  | [] => []
  | [a] =>
    let n := a.toNat
    [symbol (n / 4), symbol (n % 4 * 16)]
  | [a, b] =>
    let n := a.toNat * 256 + b.toNat
    [symbol (n / 1024), symbol (n / 16 % 64), symbol (n % 16 * 4)]
  | a :: b :: c :: rest =>
    let n := (a.toNat * 256 + b.toNat) * 256 + c.toNat
    symbol (n / 262144) :: symbol (n / 4096 % 64) :: symbol (n / 64 % 64) :: symbol (n % 64)
      :: encode rest

/-! ### Reading -/

/-- The octets of a list of six-bit numbers. -/
def regroup : List Nat → Option (List UInt8)
  | [] => some []
  | [_] => none
  | [i, j] => if j % 16 = 0 then some [UInt8.ofNat (i * 4 + j / 16)] else none
  | [i, j, k] =>
    if k % 4 = 0 then
      let n := (i * 64 + j) * 16 + k / 4
      some [UInt8.ofNat (n / 256), UInt8.ofNat (n % 256)]
    else none
  | i :: j :: k :: l :: rest =>
    let n := ((i * 64 + j) * 64 + k) * 64 + l
    (regroup rest).map fun octets =>
      UInt8.ofNat (n / 65536) :: UInt8.ofNat (n / 256 % 256) :: UInt8.ofNat (n % 256) :: octets

/-- The octets of a list of symbols, if it is a written form. -/
def decode? (symbols : List Char) : Option (List UInt8) :=
  (symbols.mapM index?).bind regroup

end Base64

end TurtleTree
