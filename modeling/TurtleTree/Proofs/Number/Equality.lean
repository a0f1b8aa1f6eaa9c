/-
TurtleTree/Proofs/Number/Equality.lean

What it means for two numbers to be equal.

Equality of singles looks at the values, not at the words that hold them.  A word
is determined by the value it stands for, with the two zeros as the only exception
(`Single.sameUpToZero_of_beq`).
-/
import Mathlib
import TurtleTree.Parameters

namespace TurtleTree

namespace Single

/-- The numbers are the same, up to the sign of a zero. -/
def SameUpToZero (x y : Float32) : Prop := x = y ∨ x.abs = 0 ∧ y.abs = 0

instance (x y : Float32) : Decidable (SameUpToZero x y) :=
  inferInstanceAs (Decidable (x = y ∨ x.abs = 0 ∧ y.abs = 0))

theorem SameUpToZero.refl (x : Float32) : SameUpToZero x x := Or.inl rfl

/-- **Equal numbers** have the same word, unless they are zeros. -/
theorem sameUpToZero_of_beq {x y : Float32} (h : (x == y) = true) : SameUpToZero x y := by
  obtain ⟨-, -, heq | ⟨rfl, rfl⟩ | ⟨rfl, rfl⟩⟩ := Float32.beq_iff_ne_nan_and_eq.mp h
  · exact Or.inl heq
  · exact Or.inr (by decide +kernel)
  · exact Or.inr (by decide +kernel)

/-- The two zeros are equal, and differ in their words. -/
example : (0 : Float32) ≠ -0 ∧ SameUpToZero 0 (-0) := by decide +kernel

end Single

end TurtleTree
