/-
TurtleTree/Json/Record.lean

What a JSON value stands for when a certain kind of value is expected.

Design.  A record may be written as an object, with its fields in any order and
with members of other names, or as an array of its values in order.
`Json.fields?` brings both into one form: a list with the value of each field
that is there.
-/
import TurtleTree.Json.Reader

namespace TurtleTree

namespace Json

/-! ### Simple values -/

def toBool? : Json → Option Bool
  | .bool b => some b
  | _ => none

/-- An integer. -/
def toInt? : Json → Option Int
  | .number n => n.toInt?
  | _ => none

/-- An integer between two bounds. -/
def toIntWithin? (low high : Int) (j : Json) : Option Int :=
  j.toInt?.filter fun i => low ≤ i && i ≤ high

def toUInt32? (j : Json) : Option UInt32 :=
  (j.toIntWithin? 0 (2 ^ 32 - 1)).map fun i => UInt32.ofNat i.toNat

def toUInt64? (j : Json) : Option UInt64 :=
  (j.toIntWithin? 0 (2 ^ 64 - 1)).map fun i => UInt64.ofNat i.toNat

def toInt32? (j : Json) : Option Int32 :=
  (j.toIntWithin? (-(2 ^ 31)) (2 ^ 31 - 1)).map Int32.ofInt

/-- A number, rounded to a single.  It may round to an infinity. -/
def toSingle? : Json → Option Float32
  | .number n => n.toSingle?
  | _ => none

/-- A list of exactly `n` numbers. -/
def toSingles? (n : Nat) : Json → Option (List Float32)
  | .array items => if items.length = n then items.mapM toSingle? else none
  | _ => none

/-- A value that may be `null`. -/
def toOption? {α : Type} (read : Json → Option α) : Json → Option (Option α)
  | .null => some none
  | j => (read j).map some

/-! ### Records -/

/-- The members of an object with their keys as text, if all keys are valid. -/
def namedMembers? (members : List (List Char × Json)) : Option (List (String × Json)) :=
  members.mapM fun (key, value) => (text? key).map (·, value)

/-- The value of a name: there is at most one. -/
def single? (members : List (String × Json)) (name : String) : Option (Option Json) :=
  match members.filter fun m => m.1 == name with
  | [] => some none
  | [m] => some (some m.2)
  | _ => none

/-- How many values a record may leave out. -/
inductive RecordForm where
  /-- Any field may be left out, and an array may end early. -/
  | partly
  /-- An array has a value for every field. -/
  | whole
deriving DecidableEq, Repr

/-- The values of the fields of a record, in the order of `names`. -/
def fields? (form : RecordForm) (names : List String) : Json → Option (List (Option Json))
  | .object members => (namedMembers? members).bind fun members => names.mapM (single? members)
  | .array items =>
    if items.length = names.length ∨ form = .partly ∧ items.length < names.length then
      some (items.map some ++ List.replicate (names.length - items.length) none)
    else none
  | _ => none

/-- A field that has to be there. -/
def required? {α : Type} (read : Json → Option α) (field : Option Json) : Option α :=
  field.bind read

/-- A field with a value to fall back on. -/
def defaulted? {α : Type} (read : Json → Option α) (value : α) : Option Json → Option α
  | some j => read j
  | none => some value

end Json

end TurtleTree
