/-
TurtleTree/Toml/Basic.lean

TOML values, and tables that grow line by line.

A table remembers how it came to be, because that decides what may be added to
it later: a table that a longer header or a dotted key made on the way to
another one may still be extended, one that was written out may not.

Design.  A document is one table, and a header only moves the place at which the
following lines are inserted.  All rules on what may be defined twice are in
`Toml.change` and in the two functions that use it to add a header or a key.
-/
namespace TurtleTree

/-- How a table came to be. -/
inductive TableOrigin where
  /-- Written in braces, and complete. -/
  | inline
  /-- Named by a header. -/
  | header
  /-- On the way to a table named by a header. -/
  | implied
  /-- On the way to a value named by a dotted key. -/
  | dotted
deriving DecidableEq, Repr

/-- A TOML value.  A date or time is kept as it is written.  In an array of tables
the last table comes first. -/
inductive Toml where
  | string (text : String)
  | integer (n : Int)
  | float (x : Float)
  | boolean (b : Bool)
  | moment (written : String)
  | array (items : List Toml)
  | table (origin : TableOrigin) (entries : List (String × Toml))
  | tables (latestFirst : List (List (String × Toml)))

/-- The entries of a table, in the order of their keys' first appearance. -/
abbrev TomlTable := List (String × Toml)

namespace Toml

/-- Replace the value of a key that the table has. -/
def replace (key : String) (value : Toml) (t : TomlTable) : TomlTable :=
  t.map fun entry => if entry.1 == key then (key, value) else entry

/-- The table may be entered.  One in braces is closed, and a dotted key enters no
table that a header named. -/
def canEnter (byDottedKey : Bool) : TableOrigin → Bool
  | .inline => false
  | .header => !byDottedKey
  | .implied => true
  | .dotted => true

/-- Change the table at a path, making the tables that are missing on the way.
The change is told how its table came to be. -/
def change (byDottedKey : Bool) (f : TableOrigin → TomlTable → Option TomlTable) :
    List String → TableOrigin → TomlTable → Option TomlTable
  | [], origin, t => f origin t
  | key :: path, _, t =>
    match t.lookup key with
    | none =>
      let origin : TableOrigin := if byDottedKey then .dotted else .implied
      (change byDottedKey f path origin []).map fun child => t ++ [(key, .table origin child)]
    | some (.table origin child) =>
      if canEnter byDottedKey origin then
        (change byDottedKey f path origin child).map fun child =>
          replace key (.table origin child) t
      else none
    | some (.tables (latest :: before)) =>
      (change byDottedKey f path .header latest).map fun latest =>
        replace key (.tables (latest :: before)) t
    | some _ => none

/-- Define a key of a table.  The table at the end of a dotted key has to be one
that dotted keys made, and no key is defined twice. -/
def define (path : List String) (key : String) (value : Toml) (origin : TableOrigin)
    (t : TomlTable) : Option TomlTable :=
  change true
    (fun origin t =>
      if origin = .dotted ↔ path.isEmpty then none
      else if (t.lookup key).isSome then none
      else some (t ++ [(key, value)]))
    path origin t

/-- Open a table by a header.  It is new, or was only implied so far. -/
def openTable (path : List String) (key : String) (root : TomlTable) : Option TomlTable :=
  change false
    (fun _ t =>
      match t.lookup key with
      | none => some (t ++ [(key, .table .header [])])
      | some (.table .implied child) => some (replace key (.table .header child) t)
      | some _ => none)
    path .header root

/-- Open another table of an array of tables. -/
def openElement (path : List String) (key : String) (root : TomlTable) : Option TomlTable :=
  change false
    (fun _ t =>
      match t.lookup key with
      | none => some (t ++ [(key, .tables [[]])])
      | some (.tables before) => some (replace key (.tables ([] :: before)) t)
      | some _ => none)
    path .header root

/-- Define a key of the table that the last header opened. -/
def defineUnder (current path : List String) (key : String) (value : Toml)
    (root : TomlTable) : Option TomlTable :=
  change false (define path key value) current .header root

end Toml

end TurtleTree
