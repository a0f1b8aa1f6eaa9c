/-
TurtleTree/Proofs/Turtle/Masking.lean

Emission switches hide what a turtle leaves behind, and nothing else.

The switches of a context are read where something is left behind and nowhere else, and
what they decide there is only whether it is shown (`Emission.shown`).  So a symbol does
the same to the turtle under all switches, and its item is the item with both switches on,
unless the kind is switched off (`Turtle.step_switched`).  By induction this holds along
any list of symbols (`Turtle.run_switched`), and for a reading by byte position
(`Reading.advance_switched`).
-/
import TurtleTree.Growth.Run

namespace TurtleTree

/-! ### Switches -/

/-- The kind of the emission is switched on. -/
def Emission.shown (branches leaves : Bool) : Emission → Bool
  | segment _ => branches
  | leaf _ => leaves

/-- The context with other emission switches. -/
def DrawingContext.switched (c : DrawingContext) (branches leaves : Bool) : DrawingContext :=
  { c with emitBranches := branches, emitLeaves := leaves }

variable {c : DrawingContext} {b l : Bool}

/-! ### Symbols -/

namespace Turtle

/-- The turtle does not look at the switches. -/
theorem move_switched (t : Turtle) (x : Char) :
    t.move (c.switched b l) x = t.move (c.switched true true) x := rfl

theorem emission?_switched (t : Turtle) (x : Char) :
    t.emission? (c.switched b l) x
      = (t.emission? (c.switched true true) x).filter (Emission.shown b l) := by
  unfold emission?
  split
  · cases b <;> rfl
  · cases b <;> rfl
  · -- whether there is a tip at all does not depend on the switches
    cases l <;> cases t.tip <;> rfl
  · rfl

/-- **A symbol under switches** does the same to the turtle, and its item is hidden if its
kind is switched off. -/
theorem step_switched (t : Turtle) (x : Char) :
    t.step (c.switched b l) x
      = ((t.step (c.switched true true) x).1,
        (t.step (c.switched true true) x).2.filter (Emission.shown b l)) :=
  Prod.ext (move_switched t x) (emission?_switched t x)

/-- Along symbols the items are hidden one by one. -/
theorem run_switched (t : Turtle) (xs : List Char) :
    t.run (c.switched b l) xs
      = ((t.run (c.switched true true) xs).1.map (Option.filter (Emission.shown b l)),
        (t.run (c.switched true true) xs).2) := by
  induction xs generalizing t with
  | nil => rfl
  | cons x xs ih => rw [run_cons, run_cons, step_switched, ih, List.map_cons]

end Turtle

/-! ### Readings -/

/-- The first `n` items of a reading under switches. -/
theorem Interpretation.take_switched (t : Turtle) (symbols : List Char) (n : Nat) :
    let full := take n ⟨c.switched true true, t, symbols⟩
    let part := take n ⟨c.switched b l, t, symbols⟩
    part.1 = full.1.map (Option.filter (Emission.shown b l)) ∧
      part.2.turtle = full.2.turtle := by
  have hrun := t.run_switched (c := c) (b := b) (l := l) (symbols.take n)
  exact ⟨congrArg (fun r => r.1) hrun, congrArg (fun r => r.2) hrun⟩

theorem Reading.advance_switched (r : Reading) :
    r.advance (c.switched b l)
      = ((r.advance (c.switched true true)).1,
        (r.advance (c.switched true true)).2.filter (Emission.shown b l)) := by
  rcases hx : r.symbol? with - | x
  · simp only [advance, hx, Option.filter_none]
  · have hstep := r.turtle.step_switched (c := c) (b := b) (l := l) x
    simp only [advance, hx, hstep]

end TurtleTree
