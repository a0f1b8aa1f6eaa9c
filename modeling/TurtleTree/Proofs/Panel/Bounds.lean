/-
TurtleTree/Proofs/Panel/Bounds.lean

What the panel keeps in bounds.

The rule set stays in the catalogue, the number of passes and the measures stay in the
ranges of their keys and sliders.  Outside random mode the angle variance has no slider,
and it may be zero, so zero belongs to its bounds.

Main result: edits keep the bounds, whatever numbers the sliders are moved to
(`Panel.inBounds_edited`).
-/
import TurtleTree.Proofs.Panel.Edits

namespace TurtleTree

/-! ### Bounds -/

/-- The value lies in the range, hence it is a number. -/
def SliderRange.Contains (r : SliderRange) (x : Float32) : Prop := r.low ≤ x ∧ x ≤ r.high

instance (r : SliderRange) (x : Float32) : Decidable (r.Contains x) :=
  inferInstanceAs (Decidable (_ ∧ _))

/-- The rule set is in the catalogue. -/
def RuleSetId.Catalogued (id : RuleSetId) : Prop :=
  RuleSetId.first.number ≤ id.number ∧ id.number ≤ RuleSetId.last.number

instance (id : RuleSetId) : Decidable id.Catalogued := inferInstanceAs (Decidable (_ ∧ _))

/-- A number of passes that may be asked for. -/
def Parameters.Choosable (n : UInt32) : Prop := 1 ≤ n ∧ n ≤ maxIterations

instance (n : UInt32) : Decidable (Parameters.Choosable n) := inferInstanceAs (Decidable (_ ∧ _))

/-- The rule set is catalogued, and everything else could be set by a slider or a key. -/
structure Parameters.InBounds (p : Parameters) : Prop where
  ruleSet : p.ruleSet.Catalogued
  iterations : Choosable p.iterations
  angle : SliderRange.angle.Contains p.angle
  branchLength : SliderRange.branchLength.Contains p.branchLength
  branchWidth : SliderRange.branchWidth.Contains p.branchWidth
  leafLength : SliderRange.leafLength.Contains p.leafLength
  leafStartWidth : SliderRange.leafWidth.Contains p.leafStartWidth
  leafEndWidth : SliderRange.leafWidth.Contains p.leafEndWidth
  angleVariance : 0 ≤ p.angleVariance.toInt ∧ p.angleVariance.toInt ≤ 100

/-- Every slider was moved to a number, if it was moved. -/
structure SliderEdits.Numeric (e : SliderEdits) : Prop where
  angle : ∀ x ∈ e.angle, x.isNaN = false
  branchLength : ∀ x ∈ e.branchLength, x.isNaN = false
  branchWidth : ∀ x ∈ e.branchWidth, x.isNaN = false
  leafLength : ∀ x ∈ e.leafLength, x.isNaN = false
  leafStartWidth : ∀ x ∈ e.leafStartWidth, x.isNaN = false
  leafEndWidth : ∀ x ∈ e.leafEndWidth, x.isNaN = false

theorem Parameters.inBounds_standard : Parameters.standard.InBounds := by
  constructor <;> decide +kernel

/-! ### Edits -/

namespace Panel

/-- A slider that is moved to a number shows a value of its range. -/
theorem contains_slid {r : SliderRange} (hr : Proper r) {value : Option Float32}
    (hvalue : ∀ x ∈ value, x.isNaN = false) {current : Float32} (h : r.Contains current) :
    r.Contains (slid r.clamp value current) := by
  obtain ⟨hlow, hhigh, hordered⟩ := hr
  rcases value with - | x
  · exact h
  · exact Single.clamp_within hlow hhigh hordered (hvalue x rfl)

/-- A key keeps what its step keeps. -/
theorem stepped_keeps {α : Type} {P : α → Prop} {step : α → α} (hstep : ∀ x, P x → P (step x))
    (pressed : Bool) {current : α} (h : P current) : P (stepped pressed step current) := by
  rw [stepped]
  split
  · exact hstep current h
  · exact h

theorem catalogued_raised (id : RuleSetId) (h : id.Catalogued) : (raised id).Catalogued := by
  rw [raised]
  split
  · next hlt =>
    have hlt : id.number < 9 := hlt
    show 1 ≤ id.number + 1 ∧ id.number + 1 ≤ 9
    grind
  · exact h

theorem catalogued_lowered (id : RuleSetId) (h : id.Catalogued) : (lowered id).Catalogued := by
  rw [lowered]
  split
  · next hlt =>
    have hlt : 1 < id.number := hlt
    have hle : id.number ≤ 9 := h.2
    show 1 ≤ id.number - 1 ∧ id.number - 1 ≤ 9
    grind
  · exact h

/-- A number of passes is brought between one and seven. -/
theorem toNat_clampedPasses (n : Nat) : (clampedPasses n).toNat = Max.max 1 (Min.min 7 n) := by
  have hclamp : (IntegerRange.iterations.clamp n).toNat = Max.max 1 (Min.min 7 n) := by
    have hlow : IntegerRange.iterations.low = 1 := rfl
    have hhigh : IntegerRange.iterations.high = 7 := rfl
    rw [IntegerRange.clamp, hlow, hhigh]
    omega
  rw [clampedPasses, hclamp]
  exact UInt32.toNat_ofNat_of_lt' (Nat.lt_of_le_of_lt (by omega : _ ≤ 7) (by decide))

theorem choosable_clampedPasses (n : Nat) : Parameters.Choosable (clampedPasses n) := by
  rw [Parameters.Choosable, UInt32.le_iff_toNat_le, UInt32.le_iff_toNat_le, toNat_clampedPasses]
  show 1 ≤ Max.max 1 (Min.min 7 n) ∧ Max.max 1 (Min.min 7 n) ≤ 7
  omega

/-- **Edits keep the bounds**, whatever numbers the sliders are moved to. -/
theorem inBounds_edited {input : FrameInput} (hinput : input.sliders.Numeric) {p : Parameters}
    (h : p.InBounds) : (edited input p).InBounds := by
  rw [edited_eq, applySliders_eq]
  exact {
    ruleSet :=
      stepped_keeps catalogued_lowered _ (stepped_keeps catalogued_raised _ h.ruleSet)
    iterations :=
      stepped_keeps (fun _ _ => choosable_clampedPasses _) _
        (stepped_keeps (fun _ _ => choosable_clampedPasses _) _ h.iterations)
    angle := contains_slid (by decide +kernel) hinput.angle h.angle
    branchLength := contains_slid (by decide +kernel) hinput.branchLength h.branchLength
    branchWidth := contains_slid (by decide +kernel) hinput.branchWidth h.branchWidth
    leafLength := contains_slid (by decide +kernel) hinput.leafLength h.leafLength
    leafStartWidth := contains_slid (by decide +kernel) hinput.leafStartWidth h.leafStartWidth
    leafEndWidth := contains_slid (by decide +kernel) hinput.leafEndWidth h.leafEndWidth
    angleVariance := by
      rcases p.randomMode with - | -
      · exact h.angleVariance
      · rcases input.sliders.angleVariance with - | n
        · exact h.angleVariance
        · have hclamped := clampedVariance_within n
          exact ⟨Int.le_trans (by decide) hclamped.1, hclamped.2⟩ }

end Panel

end TurtleTree
