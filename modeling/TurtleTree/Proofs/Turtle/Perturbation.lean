/-
TurtleTree/Proofs/Turtle/Perturbation.lean

What a table of scalars has to do with a tree.

A table and the size of the perturbation come into a tree at one place only, the
degrees of a turn, and each of the four symbols that turn reads the scalar of its own
class (`DrawingContext.turn`).  So contexts that turn alike at the symbols of a string
draw the same along the whole string (`Turtle.run_perturbedBy`): by induction on the
string, for any turtle to begin with, because all poses after a turn come from it.

Outside random mode a scalar is multiplied by zero, and nothing of it is left in the
degrees (`DrawingContext.turn_of_not_random`).

Main result: `Interpretation.reached_perturbedBy`.
-/
import TurtleTree.Proofs.Number.Sum
import TurtleTree.Proofs.Turtle.Moves

namespace TurtleTree

/-! ### Turns -/

/-- The class of a symbol, if it is one that turns. -/
def VarianceSlot.ofSymbol? : Char → Option VarianceSlot
  | '*' => some .yaw
  | '/' => some .yawInverse
  | '+' => some .roll
  | '-' => some .rollInverse
  | _ => none

/-- The scalars that are read are neither infinite nor undefined. -/
def VarianceTable.Finite (v : VarianceTable) : Prop := ∀ s, (v.slot s).isFinite = true

namespace DrawingContext

/-- Degrees of a turn before it is perturbed. -/
def straight (c : DrawingContext) : VarianceSlot → Float32
  | .yaw | .yawInverse => Turtle.yawDegrees
  | .roll | .rollInverse => c.parameters.angle

/-- Degrees of a turn. -/
def turn (c : DrawingContext) (s : VarianceSlot) : Float32 := c.perturbed (c.straight s) s

/-- The context with another table and another size of the perturbation. -/
def perturbedBy (c : DrawingContext) (v : VarianceTable) (m : Int32) : DrawingContext :=
  { c with variance := v, parameters := { c.parameters with angleVariance := m } }

/-- Outside random mode no turn is perturbed. -/
theorem turn_of_not_random {c : DrawingContext} (hmode : c.parameters.randomMode = false)
    (hangle : c.parameters.angle ≠ -0) (hfinite : c.variance.Finite) (s : VarianceSlot) :
    c.turn s = c.straight s := by
  have hsize : c.parameters.effectiveVariance = 0 := by
    rw [Parameters.effectiveVariance, hmode, if_neg Bool.false_ne_true]
  have hstraight : c.straight s ≠ -0 := by
    have hyaw : Turtle.yawDegrees ≠ -0 := by decide +kernel
    cases s with
    | yaw => exact hyaw
    | yawInverse => exact hyaw
    | roll => exact hangle
    | rollInverse => exact hangle
  rw [turn, perturbed, hsize]
  exact Single.add_zero_mul hstraight (hfinite s)

end DrawingContext

/-! ### Symbols -/

namespace Turtle

variable {c : DrawingContext} {v : VarianceTable} {m : Int32}

/-- A symbol looks at the degrees of its own class. -/
theorem step_perturbedBy {x : Char}
    (h : ∀ s, VarianceSlot.ofSymbol? x = some s → (c.perturbedBy v m).turn s = c.turn s)
    (t : Turtle) : t.step (c.perturbedBy v m) x = t.step c x := by
  have hitem : t.emission? (c.perturbedBy v m) x = t.emission? c x := rfl
  have hmove : t.move (c.perturbedBy v m) x = t.move c x := by
    unfold move
    split
    · rfl
    · rfl
    · exact congrArg (fun d => t.turned (yaw d * t.pose.orientation)) (h .yaw rfl)
    · exact congrArg (fun d => t.turned (yaw (-d) * t.pose.orientation)) (h .yawInverse rfl)
    · exact congrArg (fun d => t.turned (t.pose.orientation * roll d)) (h .roll rfl)
    · exact congrArg (fun d => t.turned (t.pose.orientation * roll (-d))) (h .rollInverse rfl)
    · rfl
    · rfl
    · rfl
  exact Prod.ext hmove hitem

/-- **Turns alike, drawn alike.** -/
theorem run_perturbedBy {xs : List Char}
    (h : ∀ x ∈ xs, ∀ s, VarianceSlot.ofSymbol? x = some s →
      (c.perturbedBy v m).turn s = c.turn s) (t : Turtle) :
    t.run (c.perturbedBy v m) xs = t.run c xs := by
  induction xs generalizing t with
  | nil => rw [run_nil, run_nil]
  | cons x xs ih =>
    obtain ⟨hx, hxs⟩ := List.forall_mem_cons.mp h
    rw [run_cons, run_cons, step_perturbedBy hx, ih hxs]

end Turtle

/-! ### Strings -/

namespace Interpretation

/-- The items of the first `n` symbols of a string and the turtle after them. -/
def reached (c : DrawingContext) (symbols : String) (n : Nat) :
    List (Option Emission) × Turtle :=
  let r := (begin c symbols).take n
  (r.1, r.2.turtle)

/-- **Tables perturb turns, and nothing else.**  After any number of symbols the items and the
turtle are the same

* under two tables that agree on the classes of the turning symbols in the string;
* and outside random mode, unless the angle is the negative zero, under any two tables with
  finite scalars and for any two sizes of the perturbation. -/
theorem reached_perturbedBy (c : DrawingContext) (v : VarianceTable) (symbols : String) :
    ((∀ x ∈ symbols.toList, ∀ s, VarianceSlot.ofSymbol? x = some s →
        v.slot s = c.variance.slot s) →
      ∀ n, reached { c with variance := v } symbols n = reached c symbols n) ∧
    (c.parameters.randomMode = false → c.parameters.angle ≠ -0 →
      c.variance.Finite → v.Finite →
      ∀ (m : Int32) (n : Nat), reached (c.perturbedBy v m) symbols n = reached c symbols n) := by
  refine ⟨?_, ?_⟩
  · intro hagree n
    refine Turtle.run_perturbedBy (m := c.parameters.angleVariance) (fun x hx s hs => ?_) _
    have hslot := hagree x (List.mem_of_mem_take hx) s hs
    exact congrArg (fun a => c.straight s + c.parameters.effectiveVariance * a) hslot
  · intro hmode hangle hfinite hfinite' m n
    refine Turtle.run_perturbedBy (fun x _ s _ => ?_) _
    rw [DrawingContext.turn_of_not_random hmode hangle hfinite,
      DrawingContext.turn_of_not_random (c := c.perturbedBy v m) hmode hangle hfinite']
    cases s <;> rfl

/-- A table that differs from another in the classes of `/` and `-`, read by a string with `*`
and `+`, and then both outside random mode with sizes of the perturbation far apart. -/
theorem reached_perturbedBy_unread :
    let v : VarianceTable := ⟨Vector.ofFn fun i => if i.val % 2 = 1 then 0.5 else 0⟩
    let drawing := fun random : Bool =>
      (⟨{ Parameters.standard with randomMode := random }, VarianceTable.zero, none, true, true⟩ :
        DrawingContext)
    v.slot .rollInverse ≠ VarianceTable.zero.slot .rollInverse ∧
    (∀ n, reached { drawing true with variance := v } "F+[F*F]F" n
      = reached (drawing true) "F+[F*F]F" n) ∧
    ∀ n, reached ((drawing false).perturbedBy v 90) "F-[F/F]F" n
      = reached (drawing false) "F-[F/F]F" n := by
  intro v drawing
  have hagree : ∀ x ∈ "F+[F*F]F".toList, ∀ s, VarianceSlot.ofSymbol? x = some s →
      v.slot s = (drawing true).variance.slot s := by
    have hread : "F+[F*F]F".toList.filterMap VarianceSlot.ofSymbol? = [.roll, .yaw] := by
      decide +kernel
    intro x hx s hs
    have hmem := List.mem_filterMap.mpr ⟨x, hx, hs⟩
    rw [hread] at hmem
    obtain rfl | rfl : s = .roll ∨ s = .yaw := by simpa using hmem
    · decide +kernel
    · decide +kernel
  have hfinite : (drawing false).variance.Finite := by
    intro s
    cases s <;> decide +kernel
  have hfinite' : v.Finite := by
    intro s
    cases s <;> decide +kernel
  have hangle : (drawing false).parameters.angle ≠ -0 := by decide +kernel
  refine ⟨by decide +kernel, ?_, ?_⟩
  · exact (reached_perturbedBy (drawing true) v _).1 hagree
  · exact (reached_perturbedBy (drawing false) v _).2 rfl hangle hfinite hfinite' 90

end Interpretation

end TurtleTree
