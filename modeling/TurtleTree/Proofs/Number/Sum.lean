/-
TurtleTree/Proofs/Number/Sum.lean

Sums in which one term is nothing.

A finite number times zero is a zero, of a sign that depends on the number
(`Single.zero_mul_cases`).  A zero of either sign may be added to any number, also to
an infinite or undefined one, and leaves it as it is.  The negative zero is the only
exception, because it turns into the positive one (`Single.add_zero_mul`).
-/
import Mathlib
import TurtleTree.Number.Single

namespace TurtleTree

namespace Single

open Float.Model

/-- A number is made up of its parts. -/
theorem pack_unpack (x : Float32) : (⟨Float32.Model.pack x.toModel.unpack⟩ : Float32) = x :=
  Float32.ofBits_toBits x

theorem zero_mul_cases {x : Float32} (hx : x.isFinite = true) : 0 * x = 0 ∨ 0 * x = -0 := by
  have hfinite : x.toModel.unpack.isFinite = true := hx
  have hmul : 0 * x = ⟨Float32.Model.pack
      (UnpackedFloat.mul .binary32 (.zero .positive) x.toModel.unpack)⟩ := rfl
  have hpacked : ∀ s, (⟨Float32.Model.pack (.zero s)⟩ : Float32) = 0 ∨
      (⟨Float32.Model.pack (.zero s)⟩ : Float32) = -0 := by
    intro s
    cases s with
    | positive => exact Or.inl (by decide +kernel)
    | negative => exact Or.inr (by decide +kernel)
  rw [hmul]
  cases hparts : x.toModel.unpack with
  | notANumber => rw [hparts] at hfinite; cases hfinite
  | infinity s => rw [hparts] at hfinite; cases hfinite
  | zero s => exact hpacked _
  | finite s m e hm => exact hpacked _

/-- A zero may be added to anything but the negative zero. -/
theorem add_zeros {x : Float32} (hx : x ≠ -0) : x + 0 = x ∧ x + -0 = x := by
  have hadd : ∀ y : Float32, x + y = ⟨Float32.Model.pack
      (UnpackedFloat.add .binary32 x.toModel.unpack y.toModel.unpack)⟩ := fun _ => rfl
  have hplus : (0 : Float32).toModel.unpack = .zero .positive := rfl
  have hminus : (-0 : Float32).toModel.unpack = .zero .negative := rfl
  suffices hsame : ∀ s, UnpackedFloat.add .binary32 x.toModel.unpack (.zero s)
      = x.toModel.unpack by
    rw [hadd, hadd, hplus, hminus, hsame, hsame, pack_unpack]
    exact ⟨rfl, rfl⟩
  intro s
  cases hparts : x.toModel.unpack with
  | notANumber => rfl
  | infinity t => rfl
  | finite t m e hm => rfl
  | zero t =>
    cases t with
    | positive => cases s <;> rfl
    | negative =>
      refine absurd ?_ hx
      rw [← pack_unpack x, hparts]
      decide +kernel

/-- **Nothing changes** when a finite number times zero is added to a number other than the
negative zero. -/
theorem add_zero_mul {x y : Float32} (hx : x ≠ -0) (hy : y.isFinite = true) :
    x + 0 * y = x := by
  obtain ⟨hplus, hminus⟩ := add_zeros hx
  rcases zero_mul_cases hy with h | h
  · rw [h, hplus]
  · rw [h, hminus]

/-- The negative zero does not stay what it is. -/
example : (-0 : Float32) + 0 * 1 = 0 ∧ (0 : Float32) ≠ -0 := by decide +kernel

end Single

end TurtleTree
