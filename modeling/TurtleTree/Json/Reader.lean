/-
TurtleTree/Json/Reader.lean

Reading JSON text.

The text is read octet by octet.  Inside a string nothing is asked of octets
above ASCII, and an escape only has to be written correctly; whether a string
is text is decided where it is used (`Json.text?`).

Design.  Every value, item and member takes at least one character, so the
number of characters bounds the depth of the recursion.
-/
import TurtleTree.Json.Basic

namespace TurtleTree

namespace Json

/-- White space between the parts of a JSON text. -/
def isSpace (c : Char) : Bool := c == ' ' || c == '\t' || c == '\n' || c == '\r'

def skipSpace (s : List Char) : List Char := s.dropWhile isSpace

/-! ### Strings -/

/-- Characters that may follow the escape character, besides `u`. -/
def isEscape (c : Char) : Bool :=
  c == '"' || c == '\\' || c == '/' || c == 'b' || c == 'f' || c == 'n' || c == 'r' || c == 't'

/-- The rest of a string behind its opening quote.  `read` holds what was read of
it so far, the last character first. -/
def scanString (read : List Char) : List Char → Option (List Char × List Char)
  | [] => none
  | '"' :: rest => some (read.reverse, rest)
  | '\\' :: 'u' :: a :: b :: c :: d :: rest =>
    if (hexNumber? [a, b, c, d]).isSome then
      scanString (d :: c :: b :: a :: 'u' :: '\\' :: read) rest
    else none
  | '\\' :: c :: rest => if isEscape c then scanString (c :: '\\' :: read) rest else none
  | c :: rest => if c < ' ' || c == '\\' then none else scanString (c :: read) rest

/-- The octets of a string, most recent first, if every surrogate is one of a
pair. -/
def unescape (octets : List UInt8) : List Char → Option (List UInt8)
  | [] => some octets
  | '\\' :: 'u' :: a :: b :: c :: d :: rest =>
    match hexNumber? [a, b, c, d] with
    | none => none
    | some unit =>
      if 0xD800 ≤ unit ∧ unit < 0xDC00 then
        match rest with
        | '\\' :: 'u' :: e :: f :: g :: h :: rest =>
          match hexNumber? [e, f, g, h] with
          | none => none
          | some low =>
            if 0xDC00 ≤ low ∧ low < 0xE000 then
              let code := 0x10000 + (unit - 0xD800) * 0x400 + (low - 0xDC00)
              unescape ((String.utf8EncodeChar (Char.ofNat code)).reverse ++ octets) rest
            else none
        | _ => none
      else if 0xDC00 ≤ unit ∧ unit < 0xE000 then none
      else unescape ((String.utf8EncodeChar (Char.ofNat unit)).reverse ++ octets) rest
  | '\\' :: c :: rest =>
    let code : UInt8 :=
      match c with
      | 'b' => 8
      | 'f' => 12
      | 'n' => 10
      | 'r' => 13
      | 't' => 9
      | c => UInt8.ofNat c.toNat
    unescape (code :: octets) rest
  | c :: rest => unescape (UInt8.ofNat c.toNat :: octets) rest

/-- The text of a string or key, if it is valid. -/
def text? (raw : List Char) : Option String :=
  (unescape [] raw).bind fun octets => Octets.toText? octets.reverse

/-! ### Numbers -/

/-- The digits at the front. -/
def scanDigits (s : List Char) : List Char × List Char := s.span Char.isDigit

/-- The digits behind a point, if there is one; a point without them is refused. -/
def scanFraction : List Char → Option (List Char × List Char)
  | '.' :: rest =>
    let (digits, rest) := scanDigits rest
    if digits.isEmpty then none else some (digits, rest)
  | rest => some ([], rest)

/-- The digits of an exponent, with its sign. -/
def scanPower (negative : Bool) (s : List Char) : Option (Option Int × List Char) :=
  let (digits, rest) := scanDigits s
  if digits.isEmpty then none
  else
    let power : Int := Numeral.valueOf digits
    some (some (if negative then -power else power), rest)

/-- An exponent, if there is one. -/
def scanExponent : List Char → Option (Option Int × List Char)
  | c :: rest =>
    if c == 'e' || c == 'E' then
      match rest with
      | '+' :: rest => scanPower false rest
      | '-' :: rest => scanPower true rest
      | rest => scanPower false rest
    else some (none, c :: rest)
  | [] => some (none, [])

/-- A number without its sign.  Zeros in front of another digit are refused. -/
def scanUnsigned (negative : Bool) (s : List Char) : Option (JsonNumber × List Char) :=
  let (whole, rest) := scanDigits s
  match whole with
  | [] => none
  | '0' :: _ :: _ => none
  | _ =>
    match scanFraction rest with
    | none => none
    | some (fraction, rest) =>
      match scanExponent rest with
      | none => none
      | some (exponent, rest) => some (⟨negative, whole, fraction, exponent⟩, rest)

def scanNumber : List Char → Option (JsonNumber × List Char)
  | '-' :: rest => scanUnsigned true rest
  | s => scanUnsigned false s

/-! ### Values -/

mutual

/-- A value at the front, and the text behind it. -/
def readValue : Nat → List Char → Option (Json × List Char)
  | 0, _ => none
  | n + 1, s =>
    match skipSpace s with
    | 'n' :: 'u' :: 'l' :: 'l' :: rest => some (.null, rest)
    | 't' :: 'r' :: 'u' :: 'e' :: rest => some (.bool true, rest)
    | 'f' :: 'a' :: 'l' :: 's' :: 'e' :: rest => some (.bool false, rest)
    | '"' :: rest => (scanString [] rest).map fun (raw, rest) => (.string raw, rest)
    | '[' :: rest =>
      match skipSpace rest with
      | ']' :: rest => some (.array [], rest)
      | rest => (readItems n rest).map fun (items, rest) => (.array items, rest)
    | '\x7b' :: rest =>
      match skipSpace rest with
      | '\x7d' :: rest => some (.object [], rest)
      | rest => (readMembers n rest).map fun (members, rest) => (.object members, rest)
    | s => (scanNumber s).map fun (written, rest) => (.number written, rest)

/-- The items of an array up to its closing bracket. -/
def readItems : Nat → List Char → Option (List Json × List Char)
  | 0, _ => none
  | n + 1, s =>
    match readValue n s with
    | none => none
    | some (item, rest) =>
      match skipSpace rest with
      | ']' :: rest => some ([item], rest)
      | ',' :: rest => (readItems n rest).map fun (items, rest) => (item :: items, rest)
      | _ => none

/-- The members of an object up to its closing brace. -/
def readMembers : Nat → List Char → Option (List (List Char × Json) × List Char)
  | 0, _ => none
  | n + 1, s =>
    match skipSpace s with
    | '"' :: rest =>
      match scanString [] rest with
      | none => none
      | some (key, rest) =>
        match skipSpace rest with
        | ':' :: rest =>
          match readValue n rest with
          | none => none
          | some (value, rest) =>
            match skipSpace rest with
            | '\x7d' :: rest => some ([(key, value)], rest)
            | ',' :: rest =>
              (readMembers n rest).map fun (members, rest) => ((key, value) :: members, rest)
            | _ => none
        | _ => none
    | _ => none

end

/-- The value of a JSON text, given as octets.  The text is a single value with
white space around it. -/
def parse? (octets : List UInt8) : Option Json :=
  let s := Octets.toChars octets
  match readValue (s.length + 1) s with
  | some (value, rest) => if (skipSpace rest).isEmpty then some value else none
  | none => none

end Json

end TurtleTree
