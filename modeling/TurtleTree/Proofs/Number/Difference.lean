/-
TurtleTree/Proofs/Number/Difference.lean

The difference of a number and itself.

In single precision it is zero for every finite number, and not a number for
everything else (`Single.sub_self_cases`).  Neither lies above a positive
bound, so parameters never differ from themselves, whatever their bits are
(`Parameters.differsFrom_self`).
-/
import TurtleTree.Parameters

namespace TurtleTree

namespace Single

open Float.Model in
/-- Subtraction before it is rounded: equal finite numbers cancel, infinities have no
difference. -/
theorem unpacked_sub_self (f : Format) (x : UnpackedFloat) :
    UnpackedFloat.sub f x x = .zero .positive ∨ UnpackedFloat.sub f x x = .notANumber := by
  cases x with
  | notANumber => exact Or.inr rfl
  | infinity s => cases s <;> exact Or.inr rfl
  | zero s => cases s <;> exact Or.inl rfl
  | finite s m e hm =>
    refine Or.inl ?_
    -- both mantissas are brought to the same exponent, so they stay the same
    let aligned := (UnpackedFloat.decreaseExponent m e (Min.min e e)).1
    show UnpackedFloat.normalize f (s.apply aligned - s.apply aligned) (Min.min e e) .positive = _
    rw [Int.sub_self]
    rfl

theorem sub_self_cases (x : Float32) : x - x = 0 ∨ x - x = notANumber := by
  have hsub : x - x = ⟨Float32.Model.pack
      (Float.Model.UnpackedFloat.sub .binary32 x.toModel.unpack x.toModel.unpack)⟩ := rfl
  rcases unpacked_sub_self .binary32 x.toModel.unpack with h | h
  · refine Or.inl ?_
    rw [hsub, h]
    decide +kernel
  · refine Or.inr ?_
    rw [hsub, h]
    decide +kernel

end Single

namespace Parameters

theorem drifted_self (x : Float32) : drifted x x = false := by
  rcases Single.sub_self_cases x with h | h
  · rw [drifted, h]
    decide +kernel
  · rw [drifted, h]
    decide +kernel

/-- Parameters never call for a new tree by themselves. -/
theorem differsFrom_self (p : Parameters) : p.differsFrom p = false := by
  have hrule : (p.ruleSet != p.ruleSet) = false := bne_self_eq_false p.ruleSet.number
  simp [differsFrom, drifted_self, hrule]

end Parameters

end TurtleTree
