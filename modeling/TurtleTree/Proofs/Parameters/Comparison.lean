/-
TurtleTree/Proofs/Parameters/Comparison.lean

The two ways to compare parameters, told parameter by parameter.

Equality looks at the values of the six measures.  It does not see the sign of a
zero, and what is not a number differs from itself (`Parameters.beq_iff`).

The comparison of a poll allows the measures to drift.  Their distance is the same
from both sides, so the comparison is symmetric (`Parameters.differsFrom_comm`).  A
measure that is not a number has no distance from any other, hence its drift is never
seen (`Parameters.drifted_eq_false_iff`); all else that is not within the tolerance is
(`Parameters.differsFrom_eq_false_iff`).
-/
import TurtleTree.Proofs.Number.Difference
import TurtleTree.Proofs.Number.Distance
import TurtleTree.Proofs.Panel.Edits

namespace TurtleTree

theorem RuleSetId.beq_iff {a b : RuleSetId} : (a == b) = true ↔ a = b := by
  constructor
  · exact RuleSetId.same_of_beq
  · rintro rfl
    exact beq_self_eq_true a.number

namespace Parameters

/-- Every measure is a number. -/
def Defined (p : Parameters) : Prop := ∀ x ∈ p.measures, x.isNaN = false

instance (p : Parameters) : Decidable p.Defined :=
  inferInstanceAs (Decidable (∀ x ∈ p.measures, x.isNaN = false))

theorem defined_iff {p : Parameters} : p.Defined ↔
    p.angle.isNaN = false ∧ p.branchLength.isNaN = false ∧ p.branchWidth.isNaN = false ∧
    p.leafLength.isNaN = false ∧ p.leafStartWidth.isNaN = false ∧ p.leafEndWidth.isNaN = false := by
  simp only [Defined, measures, List.forall_mem_cons, List.not_mem_nil, false_imp_iff,
    implies_true, and_true]

/-! ### Equality -/

/-- **Equal parameters** are the same up to the signs of zeros, and their measures are
numbers. -/
theorem beq_iff {p q : Parameters} : (p == q) = true ↔ p.SameUpToZero q ∧ p.Defined := by
  have hfields : (p == q) = instBEqParameters.beq p q := rfl
  rw [hfields, defined_iff]
  simp only [instBEqParameters.beq, Bool.and_eq_true, Single.beq_iff, RuleSetId.beq_iff,
    beq_iff_eq]
  constructor
  · rintro ⟨hrule, hpasses, ⟨hangle, dangle⟩, ⟨hlength, dlength⟩, ⟨hwidth, dwidth⟩,
      ⟨hleaf, dleaf⟩, ⟨hstart, dstart⟩, ⟨hend, dend⟩, hmode, hvariance, hcolor, hgrowth⟩
    exact ⟨⟨hrule, hpasses, hangle, hlength, hwidth, hleaf, hstart, hend, hmode, hvariance,
      hcolor, hgrowth⟩, dangle, dlength, dwidth, dleaf, dstart, dend⟩
  · rintro ⟨h, dangle, dlength, dwidth, dleaf, dstart, dend⟩
    exact ⟨h.ruleSet, h.iterations, ⟨h.angle, dangle⟩, ⟨h.branchLength, dlength⟩,
      ⟨h.branchWidth, dwidth⟩, ⟨h.leafLength, dleaf⟩, ⟨h.leafStartWidth, dstart⟩,
      ⟨h.leafEndWidth, dend⟩, h.randomMode, h.angleVariance, h.randomLeafColor,
      h.growthObserved⟩

/-! ### Drift -/

/-- The measures are the same, or no further apart than the tolerance.  `Float32` has a single NaN,
which is the same as itself, so the payloads of NaNs are not told apart. -/
def Close (x y : Float32) : Prop := x = y ∨ (x - y).abs ≤ tolerance

/-- The measures are close, or one of them is a number and the other is not. -/
def Unseen (x y : Float32) : Prop := Close x y ∨ x.isNaN ≠ y.isNaN

/-- **Drift** is seen between numbers that are not close, and nowhere else. -/
theorem drifted_eq_false_iff {x y : Float32} : drifted x y = false ↔ Unseen x y := by
  constructor
  · intro h
    by_cases hsame : x.isNaN = y.isNaN
    · refine Or.inl ?_
      by_cases heq : x = y
      · exact Or.inl heq
      rcases hx : x.isNaN with - | -
      · have hdefined := Single.isNaN_abs_sub hx (hsame ▸ hx) heq
        exact Or.inr (Single.le_of_not_lt (by decide +kernel) hdefined (of_decide_eq_false h))
      · -- only one word is not a number
        have hy := hsame ▸ hx
        rw [Float32.isNaN_eq_decide_eq_nan] at hx hy
        exact absurd ((of_decide_eq_true hx).trans (of_decide_eq_true hy).symm) heq
    · exact Or.inr hsame
  · rintro ((rfl | h) | h)
    · exact drifted_self x
    · exact decide_eq_false (Single.not_lt_of_le h)
    · have hnone : x.isNaN = true ∨ y.isNaN = true := by
        cases hx : x.isNaN
        · exact Or.inr (Bool.eq_true_of_not_eq_false fun hy => h (hx.trans hy.symm))
        · exact Or.inl rfl
      exact decide_eq_false (Single.not_lt_of_isNaN (Single.isNaN_abs_sub_of_isNaN hnone) _).2

theorem drifted_comm (x y : Float32) : drifted x y = drifted y x := by
  rw [drifted, drifted, Single.abs_sub_comm]

/-! ### What a poll compares -/

/-- The parameters agree in everything that is not a measure. -/
structure SameChoices (p q : Parameters) : Prop where
  ruleSet : p.ruleSet = q.ruleSet
  iterations : p.iterations = q.iterations
  randomMode : p.randomMode = q.randomMode
  angleVariance : p.angleVariance = q.angleVariance
  randomLeafColor : p.randomLeafColor = q.randomLeafColor
  growthObserved : p.growthObserved = q.growthObserved

/-- The parameters agree, and so do their measures up to the tolerance. -/
def WithinTolerance (p q : Parameters) : Prop :=
  p.SameChoices q ∧ List.Forall₂ Close p.measures q.measures

/-- The parameters agree, and no drift of their measures is seen. -/
def Overlooked (p q : Parameters) : Prop :=
  p.SameChoices q ∧ List.Forall₂ Unseen p.measures q.measures

/-- Whatever is a number in one of them is so in the other. -/
def Comparable (p q : Parameters) : Prop :=
  List.Forall₂ (fun x y => x.isNaN = y.isNaN) p.measures q.measures

/-- **A comparison** finds every difference but drift that is not seen. -/
theorem differsFrom_eq_false_iff {p q : Parameters} :
    p.differsFrom q = false ↔ p.Overlooked q := by
  simp only [Overlooked, differsFrom, bne, Bool.or_eq_false_iff, Bool.not_eq_false',
    RuleSetId.beq_iff, beq_iff_eq, drifted_eq_false_iff, measures, List.forall₂_cons,
    List.Forall₂.nil, and_assoc, and_true]
  constructor
  · rintro ⟨hrule, hpasses, hangle, hlength, hwidth, hleaf, hstart, hend, hgrowth, hmode,
      hvariance, hcolor⟩
    exact ⟨⟨hrule, hpasses, hmode, hvariance, hcolor, hgrowth⟩, hangle, hlength, hwidth, hleaf,
      hstart, hend⟩
  · rintro ⟨h, hangle, hlength, hwidth, hleaf, hstart, hend⟩
    exact ⟨h.ruleSet, h.iterations, hangle, hlength, hwidth, hleaf, hstart, hend,
      h.growthObserved, h.randomMode, h.angleVariance, h.randomLeafColor⟩

theorem SameChoices.symm {p q : Parameters} (h : p.SameChoices q) : q.SameChoices p :=
  ⟨h.ruleSet.symm, h.iterations.symm, h.randomMode.symm, h.angleVariance.symm,
    h.randomLeafColor.symm, h.growthObserved.symm⟩

theorem Unseen.symm {x y : Float32} (h : Unseen x y) : Unseen y x := by
  rw [← drifted_eq_false_iff] at h ⊢
  rwa [drifted_comm]

theorem Overlooked.symm {p q : Parameters} (h : p.Overlooked q) : q.Overlooked p :=
  ⟨h.1.symm, (h.2.imp fun _ _ => Unseen.symm).flip⟩

/-- Parameters may be compared either way. -/
theorem differsFrom_comm (p q : Parameters) : p.differsFrom q = q.differsFrom p := by
  have hsame : p.differsFrom q = false ↔ q.differsFrom p = false := by
    rw [differsFrom_eq_false_iff, differsFrom_eq_false_iff]
    exact ⟨Overlooked.symm, Overlooked.symm⟩
  rw [Bool.eq_iff_iff, ← Bool.not_eq_false, ← Bool.not_eq_false, hsame]

/-- Between parameters in which the same measures are numbers, only drift within the tolerance
is not seen. -/
theorem overlooked_iff_withinTolerance {p q : Parameters} (h : p.Comparable q) :
    p.Overlooked q ↔ p.WithinTolerance q := by
  refine and_congr_right' ⟨?_, ?_⟩
  · exact List.Forall₂.mp (fun _ _ hsame hunseen => hunseen.resolve_right (absurd hsame)) h
  · exact fun hclose => hclose.imp fun _ _ => Or.inl

end Parameters

end TurtleTree
