/-
TurtleTree/Toml/Reader.lean

Reading TOML documents.

Design.  Every value, item, key and line takes at least one character, so the
number of characters bounds the depth of the recursion.  Nesting has a bound of
its own: a value inside of eighty arrays and inline tables is refused, and so is
a dotted key of eighty parts.
-/
import TurtleTree.Toml.Scalar

namespace TurtleTree

namespace Toml

/-- Nesting that is refused. -/
def depthLimit : Nat := 80

/-! ### Keys -/

/-- A character of a key without quotes. -/
def isBare (c : Char) : Bool := c.isAlphanum || c == '-' || c == '_'

/-- A part of a key. -/
def readKeyPart : List Char → Option (String × List Char)
  | '"' :: rest => readBasic rest.length.succ [] rest
  | '\'' :: rest => readLiteral [] rest
  | s =>
    let (key, rest) := s.span isBare
    if key.isEmpty then none else some (String.ofList key, rest)

/-- The parts of a key, with blanks around each. -/
def readKeyParts : Nat → List Char → Option (List String × List Char)
  | 0, _ => none
  | n + 1, s =>
    (readKeyPart (skipSpace s)).bind fun (part, rest) =>
      match skipSpace rest with
      | '.' :: rest => (readKeyParts n rest).map fun (parts, rest) => (part :: parts, rest)
      | rest => some ([part], rest)

/-- A key as the tables on the way and the name in the last of them. -/
def readKey (s : List Char) : Option (List String × String × List Char) :=
  match readKeyParts (s.length + 1) s with
  | none => none
  | some (parts, rest) =>
    if depthLimit ≤ parts.length then none
    else parts.getLast?.map fun key => (parts.dropLast, key, rest)

/-! ### Values -/

mutual

/-- A value inside of `depth` arrays and inline tables. -/
def readValue : Nat → Nat → List Char → Option (Toml × List Char)
  | 0, _, _ => none
  | n + 1, depth, s =>
    match s with
    | 't' :: 'r' :: 'u' :: 'e' :: rest => some (.boolean true, rest)
    | 'f' :: 'a' :: 'l' :: 's' :: 'e' :: rest => some (.boolean false, rest)
    | '"' :: _ => (readString s).map fun (text, rest) => (.string text, rest)
    | '\'' :: _ => (readString s).map fun (text, rest) => (.string text, rest)
    | '[' :: rest =>
      if depthLimit ≤ depth + 1 then none
      else (readItems n (depth + 1) rest).map fun (items, rest) => (.array items, rest)
    | '\x7b' :: rest =>
      if depthLimit ≤ depth + 1 then none
      else
        match skipSpace rest with
        | '\x7d' :: rest => some (.table .inline [], rest)
        | rest => (readEntries n (depth + 1) [] rest).map fun (t, rest) => (.table .inline t, rest)
    | s => if startsMoment s then readMoment s else readNumber s

/-- The items of an array up to its closing bracket.  A comma may follow the last
one. -/
def readItems : Nat → Nat → List Char → Option (List Toml × List Char)
  | 0, _, _ => none
  | n + 1, depth, s =>
    match skipLines n s with
    | some (']' :: rest) => some ([], rest)
    | some s =>
      match readValue n depth s with
      | none => none
      | some (item, rest) =>
        match skipLines n rest with
        | some (']' :: rest) => some ([item], rest)
        | some (',' :: rest) =>
          (readItems n depth rest).map fun (items, rest) => (item :: items, rest)
        | _ => none
    | none => none

/-- The entries of an inline table up to its closing brace. -/
def readEntries : Nat → Nat → TomlTable → List Char → Option (TomlTable × List Char)
  | 0, _, _, _ => none
  | n + 1, depth, t, s =>
    match readKey s with
    | some (path, key, '=' :: rest) =>
      match readValue n depth (skipSpace rest) with
      | none => none
      | some (value, rest) =>
        match define path key value .inline t with
        | none => none
        | some t =>
          match skipSpace rest with
          | '\x7d' :: rest => some (t, rest)
          | ',' :: rest => readEntries n depth t rest
          | _ => none
    | _ => none

end

/-! ### Documents -/

/-- A document up to some line: its table, and the path of the last header. -/
structure Document where
  root : TomlTable
  current : List String

namespace Document

/-- A header, behind its first bracket. -/
def readHeader (d : Document) (s : List Char) : Option (Document × List Char) :=
  match s with
  | '[' :: s =>
    match readKey s with
    | some (path, key, ']' :: ']' :: rest) =>
      (openElement path key d.root).map (⟨·, path ++ [key]⟩, rest)
    | _ => none
  | s =>
    match readKey s with
    | some (path, key, ']' :: rest) => (openTable path key d.root).map (⟨·, path ++ [key]⟩, rest)
    | _ => none

/-- A key and its value. -/
def readDefinition (d : Document) (s : List Char) : Option (Document × List Char) :=
  match readKey s with
  | some (path, key, '=' :: rest) =>
    (readValue (s.length + 1) 0 (skipSpace rest)).bind fun (value, rest) =>
      (defineUnder d.current path key value d.root).map ({ d with root := · }, rest)
  | _ => none

/-- The lines of a document from a line on. -/
def readLines : Nat → Document → List Char → Option Document
  | 0, _, _ => none
  | n + 1, d, s =>
    match skipSpace s with
    | [] => some d
    | '#' :: rest => (finishLine? ('#' :: rest)).bind (readLines n d)
    | '\n' :: rest => readLines n d rest
    | '\r' :: rest => (lineEnd? ('\r' :: rest)).bind (readLines n d)
    | '[' :: rest =>
      (d.readHeader rest).bind fun (d, rest) => (finishLine? rest).bind (readLines n d)
    | s => (d.readDefinition s).bind fun (d, rest) => (finishLine? rest).bind (readLines n d)

end Document

/-- The table of a document.  A byte order mark at the front is no part of it. -/
def parse? (text : String) : Option TomlTable :=
  let s := text.toList
  let s := if s.head? = some '\ufeff' then s.tail else s
  (Document.readLines (s.length + 1) ⟨[], []⟩ s).map Document.root

end Toml

end TurtleTree
