/-
TurtleTree/Grammar/Expansion.lean

The passes of a rule set over a start string, one at a time.

An expansion remembers the string of its last pass and how many passes it has
made of those asked for.  Once all are made it stays as it is; it cannot be
started again.
-/
import TurtleTree.Grammar.RuleSet

namespace TurtleTree

/-- A finite sequence of passes, paused between two of them. -/
structure Expansion where
  ruleSet : RuleSet
  current : String
  completed : UInt32
  iterations : UInt32
deriving DecidableEq, Repr

namespace Expansion

/-- The expansion of a string by a number of passes, before the first of them. -/
def begin (r : RuleSet) (start : String) (iterations : UInt32) : Expansion :=
  ⟨r, start, 0, iterations⟩

/-- Every pass asked for has been made. -/
def isFinished (e : Expansion) : Bool := e.iterations ≤ e.completed

/-- The expansion after one more pass, if there is one left. -/
def advance? (e : Expansion) : Option Expansion :=
  if e.isFinished then none
  else some { e with current := e.ruleSet.apply e.current, completed := e.completed + 1 }

/-- One more pass if there is one left. -/
def advance (e : Expansion) : Expansion := e.advance?.getD e

/-- The string of the next pass, if there is one left, and the expansion after it. -/
def next (e : Expansion) : Option String × Expansion :=
  match e.advance? with
  | some e' => (some e'.current, e')
  | none => (none, e)

/-- Number of passes left. -/
def remaining (e : Expansion) : Nat := e.iterations.toNat - e.completed.toNat

/-- The expansion after `n` more passes. -/
def advanceTimes : Nat → Expansion → Expansion
  | 0, e => e
  | n + 1, e => advanceTimes n e.advance

/-- The string after all passes left. -/
def finish (e : Expansion) : String := (advanceTimes e.remaining e).current

/-- The strings of the next `n` passes. -/
def take : Nat → Expansion → List String
  | 0, _ => []
  | n + 1, e =>
    match e.advance? with
    | some e' => e'.current :: take n e'
    | none => []

/-- The strings of all passes left. -/
def collect (e : Expansion) : List String := take e.remaining e

end Expansion

end TurtleTree
