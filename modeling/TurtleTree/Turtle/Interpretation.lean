/-
TurtleTree/Turtle/Interpretation.lean

A whole symbol string drawn by a turtle: one item per symbol, the segment or
leaf it leaves behind or nothing.

Design.  `Interpretation` is a reading paused between two symbols, with the
symbols still to come.  `Turtle.run` reads a list of symbols at once, and a
reading continues where another one stopped (`Turtle.run_append`).
-/
import TurtleTree.Turtle.Basic

namespace TurtleTree

namespace Turtle

/-- Read one more symbol, with the items so far. -/
def readOne (c : DrawingContext) (r : Array (Option Emission) × Turtle) (symbol : Char) :
    Array (Option Emission) × Turtle :=
  let (turtle, item) := r.2.step c symbol
  (r.1.push item, turtle)

/-- The items of a list of symbols and the turtle after them. -/
def run (c : DrawingContext) (t : Turtle) (symbols : List Char) :
    List (Option Emission) × Turtle :=
  let r := symbols.foldl (readOne c) (#[], t)
  (r.1.toList, r.2)

theorem foldl_readOne (c : DrawingContext) (symbols : List Char)
    (items : Array (Option Emission)) (t : Turtle) :
    symbols.foldl (readOne c) (items, t)
      = (items ++ (symbols.foldl (readOne c) (#[], t)).1,
          (symbols.foldl (readOne c) (#[], t)).2) := by
  induction symbols generalizing items t with
  | nil => simp
  | cons symbol rest ih =>
    rw [List.foldl_cons, List.foldl_cons]
    simp only [readOne]
    rw [ih, ih (#[].push _)]
    simp

@[simp] theorem run_nil (c : DrawingContext) (t : Turtle) : t.run c [] = ([], t) := rfl

@[simp] theorem run_cons (c : DrawingContext) (t : Turtle) (symbol : Char) (rest : List Char) :
    t.run c (symbol :: rest)
      = ((t.step c symbol).2 :: ((t.step c symbol).1.run c rest).1,
          ((t.step c symbol).1.run c rest).2) := by
  simp only [run, List.foldl_cons, readOne]
  rw [foldl_readOne]
  simp

/-- A reading in two parts is the reading of the whole. -/
theorem run_append (c : DrawingContext) (t : Turtle) (u v : List Char) :
    t.run c (u ++ v)
      = ((t.run c u).1 ++ ((t.run c u).2.run c v).1, ((t.run c u).2.run c v).2) := by
  induction u generalizing t with
  | nil => rfl
  | cons symbol u ih => simp [ih]

end Turtle

/-- A reading of a symbol string, paused between two symbols. -/
structure Interpretation where
  context : DrawingContext
  turtle : Turtle
  rest : List Char

namespace Interpretation

/-- The reading of a string from its first symbol. -/
def begin (c : DrawingContext) (symbols : String) : Interpretation :=
  ⟨c, Turtle.start, symbols.toList⟩

/-- The item of the next symbol, if there is one, and the reading after it. -/
def next (i : Interpretation) : Option (Option Emission) × Interpretation :=
  match i.rest with
  | [] => (none, i)
  | symbol :: rest =>
    let (turtle, item) := i.turtle.step i.context symbol
    (some item, { i with turtle, rest })

/-- The items of the next `n` symbols and the reading after them. -/
def take (n : Nat) (i : Interpretation) : List (Option Emission) × Interpretation :=
  let (items, turtle) := i.turtle.run i.context (i.rest.take n)
  (items, { i with turtle, rest := i.rest.drop n })

/-- The items of all symbols left and the reading after them. -/
def finish (i : Interpretation) : List (Option Emission) × Interpretation :=
  i.take i.rest.length

/-- The segments and leaves of all symbols left. -/
def emissions (i : Interpretation) : List Emission := i.finish.1.filterMap id

end Interpretation

end TurtleTree
