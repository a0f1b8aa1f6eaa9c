/-
TurtleTree/Proofs/Turtle/Moves.lean

What a symbol can do to a turtle, and what that means for whole strings.

However many symbols there are, they come in four classes (`step_cases`): a
forward move, an opening bracket, a closing bracket, and everything else, which
turns the turtle in place at most.  A law about all strings is proved along
these classes.  The class of a symbol does not depend on the turtle, so the law
may also compare two turtles that read the same string.
-/
import TurtleTree.Turtle.Interpretation
import Mathlib.Order.Basic

namespace TurtleTree

namespace Turtle

/-! ### Classes of symbols -/

/-- The symbol moves the turtle forward. -/
def isForward (symbol : Char) : Bool := symbol == 'F' || symbol == 'G'

/-- A forward move is no bracket. -/
theorem ne_bracket_of_isForward {x : Char} (h : isForward x = true) : x ≠ '[' ∧ x ≠ ']' := by
  constructor <;> rintro rfl <;> exact absurd h (by decide)

/-- **The moves of a symbol.**  Forward the turtle leaves a segment and its tip behind, a
bracket saves or restores the pose, and a leaf grows where one closes.  Any other symbol
leaves everything but the orientation as it is. -/
theorem step_cases (c : DrawingContext) (x : Char) :
    (isForward x = true ∧ ∀ t : Turtle, t.step c x
      = ({ t with pose := t.ahead c, tip := some (t.ahead c) },
        if c.emitBranches then
          some (.segment ⟨t.pose.position, (t.ahead c).position, c.parameters.branchWidth⟩)
        else none)) ∨
    (x = '[' ∧ ∀ t : Turtle, t.step c x = ({ t with stack := t.stack.push t.pose }, none)) ∨
    (x = ']' ∧ ∀ t : Turtle, t.step c x
      = ({ t with pose := t.stack.pop.1.getD t.pose, stack := t.stack.pop.2 },
        if c.emitLeaves then t.tip.map fun tip => .leaf (leafAt c tip) else none)) ∨
    (isForward x = false ∧ x ≠ '[' ∧ x ≠ ']' ∧ ∃ turn : Rotation → Rotation,
      ∀ t : Turtle, t.step c x = (t.turned (turn t.pose.orientation), none)) := by
  rcases eq_or_ne x 'F' with rfl | hF
  · exact Or.inl ⟨rfl, fun _ => rfl⟩
  rcases eq_or_ne x 'G' with rfl | hG
  · exact Or.inl ⟨rfl, fun _ => rfl⟩
  rcases eq_or_ne x '[' with rfl | hopen
  · exact Or.inr (Or.inl ⟨rfl, fun _ => rfl⟩)
  rcases eq_or_ne x ']' with rfl | hclose
  · exact Or.inr (Or.inr (Or.inl ⟨rfl, fun _ => rfl⟩))
  have hforward : isForward x = false := by simp [isForward, hF, hG]
  refine Or.inr (Or.inr (Or.inr ⟨hforward, hopen, hclose, ?_⟩))
  rcases eq_or_ne x '*' with rfl | hyaw
  · exact ⟨(yaw (c.perturbed yawDegrees .yaw) * ·), fun _ => rfl⟩
  rcases eq_or_ne x '/' with rfl | hyawInverse
  · exact ⟨(yaw (-c.perturbed yawDegrees .yawInverse) * ·), fun _ => rfl⟩
  rcases eq_or_ne x '+' with rfl | hroll
  · exact ⟨(· * roll (c.perturbed c.parameters.angle .roll)), fun _ => rfl⟩
  rcases eq_or_ne x '-' with rfl | hrollInverse
  · exact ⟨(· * roll (-c.perturbed c.parameters.angle .rollInverse)), fun _ => rfl⟩
  -- a symbol without a meaning turns the turtle to where it looks already
  refine ⟨id, fun t => ?_⟩
  have hmove : t.move c x = t.turned t.pose.orientation := by
    simp only [move]
    rfl
  have hitem : t.emission? c x = none := by simp only [emission?]
  exact Prod.ext hmove hitem

/-! ### Items by position -/

variable {c : DrawingContext} {t : Turtle}

/-- There is one item for each symbol. -/
@[simp] theorem length_run (s : List Char) : (t.run c s).1.length = s.length := by
  induction s generalizing t with
  | nil => rfl
  | cons x s ih => simp [ih]

/-- The item of a symbol is what the turtle leaves behind when it meets the symbol. -/
theorem getElem?_run (s : List Char) (i : Nat) :
    (t.run c s).1[i]? = s[i]?.map fun x => ((t.run c (s.take i)).2.step c x).2 := by
  induction s generalizing t i with
  | nil => rfl
  | cons x s ih =>
    rcases i with - | i
    · simp
    · simp [ih]

/-- The items of the first symbols are the first items. -/
theorem run_take (s : List Char) (i : Nat) :
    (t.run c (s.take i)).1 = (t.run c s).1.take i := by
  induction s generalizing t i with
  | nil => simp
  | cons x s ih =>
    rcases i with - | i
    · rfl
    · simp [ih]

end Turtle

/-- Reading to the end gives the items of all symbols. -/
theorem Interpretation.finish_begin (c : DrawingContext) (symbols : String) :
    (begin c symbols).finish.1 = (Turtle.start.run c symbols.toList).1 := by
  have hall : symbols.toList.take symbols.toList.length = symbols.toList := List.take_length
  show (Turtle.start.run c (symbols.toList.take symbols.toList.length)).1 = _
  rw [hall]

end TurtleTree
