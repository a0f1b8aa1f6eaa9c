/-
TurtleTree/Json/Writer.lean

Writing JSON text, compact or with one item a line.

The compact layout has no space at all.  The spacious one puts every item and
member on a line of its own, indented by two spaces a level, and a space behind
each colon; an empty array or object stays on its line in both.

Design.  A value is written in front of the text that follows it, so no part of
the text is ever copied, and reading a value back can be studied with any rest.
-/
import TurtleTree.Json.Basic

namespace TurtleTree

/-- Where a written JSON text has space. -/
inductive JsonLayout where
  | compact
  | spacious
deriving DecidableEq, Repr

namespace JsonLayout

/-- The break before a line of a depth. -/
def lineBreak (l : JsonLayout) (depth : Nat) : List Char :=
  match l with
  | compact => []
  | spacious => '\n' :: List.replicate (2 * depth) ' '

/-- The mark between a key and its value. -/
def colon : JsonLayout → List Char
  | compact => [':']
  | spacious => [':', ' ']

end JsonLayout

namespace JsonNumber

/-- The digits behind the point, with the point; nothing if there are none. -/
def fractionChars : List Char → List Char
  | [] => []
  | digits => '.' :: digits

/-- An exponent with its sign, if there is one. -/
def exponentChars : Option Int → List Char
  | none => []
  | some e => 'e' :: (if e < 0 then '-' else '+') :: Nat.toDigits 10 e.natAbs

/-- The characters of a number. -/
def chars (n : JsonNumber) : List Char :=
  (if n.negative then ['-'] else []) ++ n.whole ++ fractionChars n.fraction
    ++ exponentChars n.exponent

end JsonNumber

namespace Json

/-- A string or key in quotes, in front of a text. -/
def quoted (raw rest : List Char) : List Char := '"' :: (raw ++ '"' :: rest)

mutual

/-- The characters of a value at a depth, in front of a text. -/
def write (l : JsonLayout) (depth : Nat) : Json → List Char → List Char
  | .null, rest => 'n' :: 'u' :: 'l' :: 'l' :: rest
  | .bool true, rest => 't' :: 'r' :: 'u' :: 'e' :: rest
  | .bool false, rest => 'f' :: 'a' :: 'l' :: 's' :: 'e' :: rest
  | .number n, rest => n.chars ++ rest
  | .string raw, rest => quoted raw rest
  | .array [], rest => '[' :: ']' :: rest
  | .array (item :: items), rest =>
    '[' :: (l.lineBreak (depth + 1) ++ write l (depth + 1) item
      (writeItems l (depth + 1) items (l.lineBreak depth ++ ']' :: rest)))
  | .object [], rest => '\x7b' :: '\x7d' :: rest
  | .object ((key, value) :: members), rest =>
    '\x7b' :: (l.lineBreak (depth + 1) ++ quoted key (l.colon ++ write l (depth + 1) value
      (writeMembers l (depth + 1) members (l.lineBreak depth ++ '\x7d' :: rest))))

/-- The items behind the first one, each with the comma before it, in front of a
text. -/
def writeItems (l : JsonLayout) (depth : Nat) : List Json → List Char → List Char
  | [], rest => rest
  | item :: items, rest =>
    ',' :: (l.lineBreak depth ++ write l depth item (writeItems l depth items rest))

/-- The members behind the first one, each with the comma before it, in front of a
text. -/
def writeMembers (l : JsonLayout) (depth : Nat) :
    List (List Char × Json) → List Char → List Char
  | [], rest => rest
  | (key, value) :: members, rest =>
    ',' :: (l.lineBreak depth ++ quoted key (l.colon ++ write l depth value
      (writeMembers l depth members rest)))

end

/-- The compact text of a value. -/
def compact (j : Json) : List Char := write .compact 0 j []

/-- The text of a value with one item a line. -/
def spacious (j : Json) : List Char := write .spacious 0 j []

end Json

end TurtleTree
