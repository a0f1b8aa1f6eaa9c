/-
TurtleTree/Growth/Run.lean

A generation run as a value: first its passes, then its symbols, one unit of
work at a time.

Design.  While symbols are interpreted the run holds the whole string and the
byte position of the next symbol, beside the number of symbols read and their
total.  The position moves by the length of the symbol read, so it always
stands between two characters.
-/
import TurtleTree.Grammar.Expansion
import TurtleTree.Growth.Message
import TurtleTree.Turtle.Interpretation

namespace TurtleTree

/-! ### Reading symbols -/

/-- A string read by a turtle up to a byte position. -/
structure Reading where
  symbols : String
  /-- Byte position of the next symbol. -/
  cursor : Nat
  /-- Number of symbols read. -/
  interpreted : Nat
  /-- Number of symbols in the string. -/
  total : Nat
  turtle : Turtle
deriving DecidableEq

namespace Reading

/-- The reading of a string, before its first symbol. -/
def begin (symbols : String) : Reading := ⟨symbols, 0, 0, symbols.length, Turtle.start⟩

/-- The next symbol, if there is one. -/
def symbol? (r : Reading) : Option Char := String.Pos.Raw.get? r.symbols ⟨r.cursor⟩

/-- The reading after the symbol given. -/
def past (r : Reading) (symbol : Char) (turtle : Turtle) : Reading :=
  { r with cursor := r.cursor + symbol.utf8Size, interpreted := r.interpreted + 1, turtle }

/-- Every symbol was read. -/
def isExhausted (r : Reading) : Bool := r.total ≤ r.interpreted

/-- Number of symbols left. -/
def remaining (r : Reading) : Nat := r.total - r.interpreted

/-- One symbol more, if there is one, with the item it leaves behind. -/
def advance (c : DrawingContext) (r : Reading) : Reading × Option Emission :=
  match r.symbol? with
  | none => (r, none)
  | some symbol =>
    let (turtle, item) := r.turtle.step c symbol
    (r.past symbol turtle, item)

end Reading

/-! ### Runs -/

/-- What a run is doing. -/
inductive Stage where
  | expanding (e : Expansion)
  | interpreting (r : Reading)
deriving DecidableEq

namespace Stage

/-- The stage of an expansion: a finished one is read from its first symbol. -/
def ofExpansion (e : Expansion) : Stage :=
  if e.isFinished then .interpreting (Reading.begin e.current) else .expanding e

/-- The phase shown for a stage. -/
def phase : Stage → Phase
  | expanding e => .expanding e.completed e.iterations
  | interpreting r => .interpreting r.interpreted r.total

end Stage

/-- A run that has not reached its end. -/
structure Run where
  /-- The parameters the run was started with. -/
  parameters : Parameters
  stage : Stage
  /-- Segments drawn so far. -/
  segments : Nat
  /-- Leaves drawn so far. -/
  leaves : Nat
deriving DecidableEq

namespace Run

/-- The run of a set of parameters, before its first unit of work. -/
def begin (p : Parameters) : Run :=
  let r := RuleSet.select p.ruleSet
  ⟨p, Stage.ofExpansion (Expansion.begin r r.start p.iterations), 0, 0⟩

/-- The run after one more emission. -/
def count (r : Run) : Emission → Run
  | .segment _ => { r with segments := r.segments + 1 }
  | .leaf _ => { r with leaves := r.leaves + 1 }

/-- Passes left before symbols are read. -/
def passesLeft (r : Run) : Nat :=
  match r.stage with
  | .expanding e => e.remaining
  | .interpreting _ => 0

/-- Symbols left, once symbols are read. -/
def symbolsLeft (r : Run) : Nat :=
  match r.stage with
  | .expanding _ => 0
  | .interpreting r => r.remaining

end Run

end TurtleTree
