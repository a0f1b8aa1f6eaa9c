/-
TurtleTree/Text/Octets.lean

Octets seen as characters.

A format whose marks are all ASCII can be read octet by octet, whether or not
the octets between the marks are valid text.  So that such a reader can name its
marks, an octet stands as the character of its number.
-/
namespace TurtleTree

namespace Octets

/-- Every octet as the character of its number. -/
def toChars (octets : List UInt8) : List Char := octets.map fun b => Char.ofNat b.toNat

/-- The octets of characters that stand for octets. -/
def ofChars (chars : List Char) : List UInt8 := chars.map fun c => UInt8.ofNat c.toNat

/-- The octets of a text in UTF-8. -/
def ofText (text : String) : List UInt8 := text.toUTF8.toList

/-- The text of octets in UTF-8, if they are valid. -/
def toText? (octets : List UInt8) : Option String := String.fromUTF8? ⟨octets.toArray⟩

end Octets

/-- The value of a hexadecimal digit. -/
def hexValue? (c : Char) : Option Nat :=
  if '0' ≤ c ∧ c ≤ '9' then some (c.toNat - '0'.toNat)
  else if 'a' ≤ c ∧ c ≤ 'f' then some (c.toNat - 'a'.toNat + 10)
  else if 'A' ≤ c ∧ c ≤ 'F' then some (c.toNat - 'A'.toNat + 10)
  else none

/-- The value of a list of hexadecimal digits. -/
def hexNumber? (digits : List Char) : Option Nat :=
  digits.foldlM (fun n c => (hexValue? c).map (16 * n + ·)) 0

end TurtleTree
