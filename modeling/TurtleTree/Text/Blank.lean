/-
TurtleTree/Text/Blank.lean

White space of Unicode, and text without the white space around it.
-/
namespace TurtleTree

/-- A character of the Unicode property White_Space. -/
def isBlank (c : Char) : Bool :=
  let n := c.toNat
  (9 ≤ n && n ≤ 13) || n == 0x20 || n == 0x85 || n == 0xA0 || n == 0x1680
    || (0x2000 ≤ n && n ≤ 0x200A) || n == 0x2028 || n == 0x2029 || n == 0x202F
    || n == 0x205F || n == 0x3000

/-- Characters without the blanks in front. -/
def trimFront (s : List Char) : List Char := s.dropWhile isBlank

/-- Characters without the blanks behind. -/
def trimBack (s : List Char) : List Char := (s.reverse.dropWhile isBlank).reverse

/-- Characters without the blanks around them. -/
def trim (s : List Char) : List Char := trimBack (trimFront s)

end TurtleTree
