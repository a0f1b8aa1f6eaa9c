/-
TurtleTree/Toml/Scalar.lean

Blanks, comments, strings, numbers and dates of TOML text.

A reader takes what it looks for from the front of a text and returns it with
the text behind it.  It answers nothing if the text does not start with what it
looks for, or starts with a broken one: what follows a value can never repair
it, so the two need not be told apart.
-/
import TurtleTree.Number.Numeral
import TurtleTree.Text.Octets
import TurtleTree.Toml.Basic

namespace TurtleTree

namespace Toml

/-! ### Blanks and comments -/

/-- A blank within a line. -/
def isSpace (c : Char) : Bool := c == ' ' || c == '\t'

def skipSpace (s : List Char) : List Char := s.dropWhile isSpace

/-- A character that may stand in comments and strings: all but control characters,
of which only the tab may. -/
def isPlain (c : Char) : Bool := c == '\t' || (' ' ≤ c && c ≠ '\x7f')

/-- The text behind a line end at the front. -/
def lineEnd? : List Char → Option (List Char)
  | '\n' :: rest => some rest
  | '\r' :: '\n' :: rest => some rest
  | _ => none

/-- The text behind a comment, if there is one. -/
def skipComment : List Char → List Char
  | '#' :: rest => rest.dropWhile isPlain
  | s => s

/-- The text of the next line, if only blanks and a comment are left of this one. -/
def finishLine? (s : List Char) : Option (List Char) :=
  match skipComment (skipSpace s) with
  | [] => some []
  | s => lineEnd? s

/-- The text behind blanks, comments and line ends. -/
def skipLines : Nat → List Char → Option (List Char)
  | 0, s => some s
  | n + 1, s =>
    match skipSpace s with
    | '#' :: rest => (lineEnd? (skipComment ('#' :: rest))).bind (skipLines n)
    | '\n' :: rest => skipLines n rest
    | '\r' :: rest => (lineEnd? ('\r' :: rest)).bind (skipLines n)
    | s => some s

/-! ### Strings -/

/-- The character of a number, if it has one. -/
def charOf? (n : Nat) : Option Char := if n.isValidChar then some (Char.ofNat n) else none

/-- The character of an escape, behind the escape character. -/
def readEscape : List Char → Option (Char × List Char)
  | 'b' :: rest => some ('\x08', rest)
  | 't' :: rest => some ('\t', rest)
  | 'n' :: rest => some ('\n', rest)
  | 'f' :: rest => some ('\x0c', rest)
  | 'r' :: rest => some ('\r', rest)
  | '"' :: rest => some ('"', rest)
  | '\\' :: rest => some ('\\', rest)
  | 'u' :: rest =>
    if rest.length < 4 then none
    else ((hexNumber? (rest.take 4)).bind charOf?).map (·, rest.drop 4)
  | 'U' :: rest =>
    if rest.length < 8 then none
    else ((hexNumber? (rest.take 8)).bind charOf?).map (·, rest.drop 8)
  | _ => none

/-- The rest of a string on one line, behind its opening quote.  `read` holds what
was read of it so far, the last character first. -/
def readBasic : Nat → List Char → List Char → Option (String × List Char)
  | 0, _, _ => none
  | n + 1, read, s =>
    match s with
    | [] => none
    | '"' :: rest => some (String.ofList read.reverse, rest)
    | '\\' :: rest => (readEscape rest).bind fun (c, rest) => readBasic n (c :: read) rest
    | c :: rest => if isPlain c then readBasic n (c :: read) rest else none

/-- The rest of a literal string on one line. -/
def readLiteral (read : List Char) : List Char → Option (String × List Char)
  | [] => none
  | '\'' :: rest => some (String.ofList read.reverse, rest)
  | c :: rest => if isPlain c then readLiteral (c :: read) rest else none

/-- A closing delimiter of three quotes was read.  Up to two quotes behind it are
the end of the string, and the delimiter comes after them. -/
def closeLines (quote : Char) (read : List Char) (s : List Char) : String × List Char :=
  let more := min 2 (s.takeWhile (· == quote)).length
  (String.ofList (read.reverse ++ List.replicate more quote), s.drop more)

/-- The text behind a line end that is escaped: the blanks and line ends after it
do not belong to the string. -/
def joinLines? (n : Nat) (s : List Char) : Option (List Char) :=
  let rec skip : Nat → List Char → List Char
    | 0, s => s
    | n + 1, s =>
      match lineEnd? (skipSpace s) with
      | some rest => skip n rest
      | none => skipSpace s
  (lineEnd? (skipSpace s)).map (skip n)

/-- The rest of a string over several lines. -/
def readBasicLines : Nat → List Char → List Char → Option (String × List Char)
  | 0, _, _ => none
  | n + 1, read, s =>
    match s with
    | [] => none
    | '"' :: '"' :: '"' :: rest => some (closeLines '"' read rest)
    | '\\' :: rest =>
      match joinLines? n rest with
      | some rest => readBasicLines n read rest
      | none => (readEscape rest).bind fun (c, rest) => readBasicLines n (c :: read) rest
    | '\n' :: rest => readBasicLines n ('\n' :: read) rest
    | '\r' :: '\n' :: rest => readBasicLines n ('\n' :: read) rest
    | c :: rest => if isPlain c then readBasicLines n (c :: read) rest else none

/-- The rest of a literal string over several lines. -/
def readLiteralLines : Nat → List Char → List Char → Option (String × List Char)
  | 0, _, _ => none
  | n + 1, read, s =>
    match s with
    | [] => none
    | '\'' :: '\'' :: '\'' :: rest => some (closeLines '\'' read rest)
    | '\n' :: rest => readLiteralLines n ('\n' :: read) rest
    | '\r' :: '\n' :: rest => readLiteralLines n ('\n' :: read) rest
    | c :: rest => if isPlain c then readLiteralLines n (c :: read) rest else none

/-- The text behind a line end at the front, if there is one. -/
def dropLineEnd (s : List Char) : List Char := (lineEnd? s).getD s

/-- A string of any of the four kinds. -/
def readString (s : List Char) : Option (String × List Char) :=
  match s with
  | '"' :: '"' :: '"' :: rest => readBasicLines s.length [] (dropLineEnd rest)
  | '\'' :: '\'' :: '\'' :: rest => readLiteralLines s.length [] (dropLineEnd rest)
  | '"' :: rest => readBasic s.length [] rest
  | '\'' :: rest => readLiteral [] rest
  | _ => none

/-! ### Numbers -/

/-- The digits of a run of digits with single underscores between some of them. -/
def ungroup? (run : List Char) : Option (List Char) :=
  let rec go (afterDigit : Bool) : List Char → Option (List Char)
    | [] => if afterDigit then some [] else none
    | c :: rest =>
      if c = '_' then if afterDigit then go false rest else none
      else (go true rest).map (c :: ·)
  go false run

/-- Digits of a kind at the front, with underscores between them. -/
def readDigits (isDigit : Char → Bool) (s : List Char) : Option (List Char × List Char) :=
  let (run, rest) := s.span fun c => isDigit c || c == '_'
  (ungroup? run).map (·, rest)

/-- Decimal digits at the front; a zero in front of others is refused. -/
def readWhole (s : List Char) : Option (List Char × List Char) :=
  (readDigits Char.isDigit s).filter fun (digits, _) => digits.length = 1 || digits.head? ≠ some '0'

/-- An integer of 64 bits. -/
def word? (n : Int) : Option Toml :=
  if -(2 ^ 63 : Int) ≤ n ∧ n < 2 ^ 63 then some (.integer n) else none

/-- An integer in base `base`, behind its mark. -/
def readBased (base : Nat) (s : List Char) : Option (Toml × List Char) :=
  let isDigit (c : Char) : Bool :=
    match hexValue? c with
    | some d => d < base
    | none => false
  match readDigits isDigit s with
  | none => none
  | some (digits, rest) =>
    let n : Nat := digits.foldl (fun n c => base * n + (hexValue? c).getD 0) 0
    (word? n).map (·, rest)

/-- The digits behind a point, if there is one. -/
def readFraction : List Char → Option (List Char × List Char)
  | '.' :: rest => readDigits Char.isDigit rest
  | s => some ([], s)

/-- The number of an exponent, if there is one. -/
def readExponent : List Char → Option (Option Int × List Char)
  | c :: rest =>
    if c == 'e' || c == 'E' then
      let (negative, digits) :=
        match rest with
        | '-' :: rest => (true, rest)
        | '+' :: rest => (false, rest)
        | rest => (false, rest)
      (readDigits Char.isDigit digits).map fun (digits, rest) =>
        let power : Int := Numeral.valueOf digits
        (some (if negative then -power else power), rest)
    else some (none, c :: rest)
  | [] => some (none, [])

/-- A decimal number without its sign.  With a fraction or an exponent it is a
float, which must not round to infinity from above. -/
def readDecimal (negative : Bool) (s : List Char) : Option (Toml × List Char) := do
  let (whole, rest) ← readWhole s
  let (fraction, rest) ← readFraction rest
  let (exponent, rest) ← readExponent rest
  if fraction.isEmpty && exponent.isNone then
    let n : Int := Numeral.valueOf whole
    (word? (if negative then -n else n)).map (·, rest)
  else
    let x := (Numeral.ofParts negative whole fraction (exponent.getD 0)).toDouble
    if x.isInf && !negative then none else some (.float x, rest)

/-- A number or one of its special names, behind its sign. -/
def readSigned (negative : Bool) : List Char → Option (Toml × List Char)
  | 'i' :: 'n' :: 'f' :: rest =>
    some (.float (Float.ofBits (if negative then 0xfff0000000000000 else 0x7ff0000000000000)), rest)
  | 'n' :: 'a' :: 'n' :: rest => some (.float (Float.ofBits 0x7ff8000000000000), rest)
  | s => readDecimal negative s

/-- A number at the front. -/
def readNumber : List Char → Option (Toml × List Char)
  | '+' :: rest => readSigned false rest
  | '-' :: rest => readSigned true rest
  | '0' :: 'x' :: rest => readBased 16 rest
  | '0' :: 'o' :: rest => readBased 8 rest
  | '0' :: 'b' :: rest => readBased 2 rest
  | s => readSigned false s

/-! ### Dates and times -/

/-- A number of exactly `n` digits. -/
def fixedNumber? (n : Nat) (s : List Char) : Option (Nat × List Char) :=
  let digits := s.take n
  if digits.length = n ∧ digits.all Char.isDigit then some (Numeral.valueOf digits, s.drop n)
  else none

/-- The text behind a character at the front. -/
def mark? (c : Char) : List Char → Option (List Char)
  | d :: rest => if c = d then some rest else none
  | [] => none

/-- Days of a month. -/
def daysIn (year month : Nat) : Nat :=
  if month = 2 then
    if year % 4 = 0 ∧ (year % 100 ≠ 0 ∨ year % 400 = 0) then 29 else 28
  else if month = 4 ∨ month = 6 ∨ month = 9 ∨ month = 11 then 30
  else 31

/-- The text behind a date. -/
def skipDate? (s : List Char) : Option (List Char) := do
  let (year, s) ← fixedNumber? 4 s
  let s ← mark? '-' s
  let (month, s) ← fixedNumber? 2 s
  let s ← mark? '-' s
  let (day, s) ← fixedNumber? 2 s
  if 1 ≤ month ∧ month ≤ 12 ∧ 1 ≤ day ∧ day ≤ daysIn year month then some s else none

/-- The text behind a point and digits, if they follow. -/
def skipSubsecond (s : List Char) : List Char :=
  match s with
  | '.' :: c :: rest => if c.isDigit then rest.dropWhile Char.isDigit else s
  | _ => s

/-- The text behind a time of day. -/
def skipTime? (s : List Char) : Option (List Char) := do
  let (hour, s) ← fixedNumber? 2 s
  let s ← mark? ':' s
  let (minute, s) ← fixedNumber? 2 s
  let s ← mark? ':' s
  let (second, s) ← fixedNumber? 2 s
  if hour ≤ 23 ∧ minute ≤ 59 ∧ second ≤ 60 then some (skipSubsecond s) else none

/-- The text behind an offset from universal time, if one follows. -/
def skipOffset? (s : List Char) : Option (List Char) :=
  match s with
  | c :: rest =>
    if c == 'Z' || c == 'z' then some rest
    else if c == '+' || c == '-' then do
      let (hour, s) ← fixedNumber? 2 rest
      let s ← mark? ':' s
      let (minute, s) ← fixedNumber? 2 s
      if hour ≤ 23 ∧ minute ≤ 59 then some s else none
    else some s
  | [] => some []

/-- The text behind a time and an offset, if a time follows a date. -/
def skipTimeOfDate (s : List Char) : List Char :=
  match s with
  | c :: rest =>
    if c == 'T' || c == 't' || c == ' ' then ((skipTime? rest).bind skipOffset?).getD s else s
  | [] => []

/-- The text behind a date, a time or both. -/
def skipMoment? (s : List Char) : Option (List Char) :=
  match (fixedNumber? 4 s).bind fun (_, s) => mark? '-' s with
  | some _ => (skipDate? s).map skipTimeOfDate
  | none => skipTime? s

/-- The text starts like a date or a time. -/
def startsMoment (s : List Char) : Bool :=
  ((fixedNumber? 4 s).bind fun (_, s) => mark? '-' s).isSome
    || ((fixedNumber? 2 s).bind fun (_, s) => mark? ':' s).isSome

/-- A date, a time or both, as it is written. -/
def readMoment (s : List Char) : Option (Toml × List Char) :=
  (skipMoment? s).map fun rest =>
    (.moment (String.ofList (s.take (s.length - rest.length))), rest)

end Toml

end TurtleTree
