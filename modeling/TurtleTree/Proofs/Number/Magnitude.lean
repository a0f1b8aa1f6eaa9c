/-
TurtleTree/Proofs/Number/Magnitude.lean

Numbers as they are compared, and as exact fractions.

A comparison takes a number apart into a mantissa and an exponent, and so does
`Single.magnitude`, which reads them off the fields of the word.  Both find the same
(`Single.unpack_cases`).

Main result: what is not negative and below `2 ^ 64` has a magnitude below it, so it can be
scaled and rounded within a bound (`Single.magnitude_lt`, `Magnitude.scaledHalfEven_lt`).
-/
import Mathlib
import TurtleTree.Proofs.Number.Order

namespace TurtleTree

/-- Rounding does not leave a bound that the value is below, if the scale has room for it. -/
theorem Magnitude.scaledHalfEven_lt {v : Magnitude} {bound scale : Nat}
    (h : v.mantissa * 2 ^ v.exponent.toNat < bound) (hscale : 1 < scale) :
    v.scaledHalfEven scale < bound * scale := by
  have hnext : v.mantissa * 2 ^ v.exponent.toNat * scale + scale ≤ bound * scale := by
    rw [← Nat.succ_mul]
    exact Nat.mul_le_mul_right scale h
  rw [scaledHalfEven]
  split
  · show v.mantissa * 2 ^ v.exponent.toNat * scale < _
    omega
  · next hnegative =>
    -- the quotient is at most the dividend, and one more for the rounding
    have hexponent : v.exponent.toNat = 0 := by omega
    rw [hexponent, Nat.pow_zero, Nat.mul_one] at hnext
    have hquotient := Nat.div_le_self (v.mantissa * scale) (Nat.pow 2 (-v.exponent).toNat)
    dsimp only
    repeat' split
    all_goals omega

namespace Single

open Float.Model

open UnpackedFloat (Sign)

/-! ### Fields -/

theorem toNat_unpackExponent (x : Float32) :
    (@UnpackedFloat.unpackExponent .binary32 x.toBits.toBitVec).toNat
      = exponentField x := by
  rw [UnpackedFloat.unpackExponent, BitVec.toNat_cast, BitVec.extractLsb_toNat,
    Nat.shiftRight_eq_div_pow]
  rfl

theorem toNat_unpackMantissa (x : Float32) :
    (@UnpackedFloat.unpackMantissa .binary32 x.toBits.toBitVec).toNat
      = fractionField x := by
  rw [UnpackedFloat.unpackMantissa, BitVec.toNat_cast, BitVec.extractLsb_toNat]
  rfl

/-- The implicit bit of a mantissa is worth as much as all bits below it, and one more. -/
theorem toNat_one_append {n : Nat} (b : BitVec n) : (1#1 ++ b).toNat = 2 ^ n + b.toNat := by
  rw [BitVec.toNat_append, ← Nat.shiftLeft_add_eq_or_of_lt b.isLt, Nat.shiftLeft_eq]
  exact congrArg (· + _) (Nat.one_mul _)

/-! ### Parts of a number -/

/-- **A number** is infinite, or it is zero, or its magnitude has the mantissa and the exponent
that it is compared by. -/
theorem unpack_cases {x : Float32} (hx : x.isNaN = false) :
    (∃ s, x.toModel.unpack = .infinity s) ∨
    (∃ s, x.toModel.unpack = .zero s ∧ magnitude x = ⟨0, -149⟩) ∨
    ∃ s m e hm, x.toModel.unpack = .finite s m e hm ∧ magnitude x = ⟨m, e⟩ ∧ m < 2 ^ 24 := by
  have hnumber : x.toModel.unpack.isNaN = false := hx
  have hfraction : fractionField x < 2 ^ 23 := Nat.mod_lt _ (by decide)
  generalize hu : x.toModel.unpack = u at hnumber ⊢
  have hparts : UnpackedFloat.unpack .binary32 x.toBits.toBitVec = u := hu
  simp only [UnpackedFloat.unpack] at hparts
  split at hparts
  · split at hparts
    · exact Or.inl ⟨_, hparts.symm⟩
    · rw [← hparts] at hnumber
      exact nomatch hnumber
  · split at hparts
    · next hzero =>
      have hexponent : exponentField x = 0 := by
        rw [← toNat_unpackExponent, hzero]
        rfl
      have hmagnitude : magnitude x = ⟨fractionField x, -149⟩ := if_pos hexponent
      split at hparts
      · next hmantissa =>
        rw [← toNat_unpackMantissa, hmantissa] at hmagnitude
        exact Or.inr (Or.inl ⟨_, hparts.symm, hmagnitude⟩)
      · refine Or.inr (Or.inr ⟨_, _, _, _, hparts.symm, ?_, ?_⟩)
        · rw [toNat_unpackMantissa, toNat_unpackExponent, hexponent]
          exact hmagnitude
        · rw [toNat_unpackMantissa]
          omega
    · next hzero =>
      have hexponent : exponentField x ≠ 0 := by
        rw [← toNat_unpackExponent]
        exact fun h => hzero (BitVec.eq_of_toNat_eq h)
      refine Or.inr (Or.inr ⟨_, _, _, _, hparts.symm, ?_, ?_⟩)
      · rw [toNat_one_append, toNat_unpackMantissa, toNat_unpackExponent]
        exact if_neg hexponent
      · rw [toNat_one_append, toNat_unpackMantissa]
        show 2 ^ 23 + _ < _
        omega

/-- What is below a power of two from zero on has a magnitude below it. -/
theorem magnitude_lt {x : Float32} (hx : x.isNaN = false) (hlow : ¬ x < 0)
    (hhigh : ¬ 18446744073709551616 ≤ x) :
    x.isInf = false ∧
      (magnitude x).mantissa * 2 ^ (magnitude x).exponent.toNat < 2 ^ 64 := by
  have hzero : (0 : Float32).toModel.unpack = .zero .positive := rfl
  have hbound : (18446744073709551616 : Float32).toModel.unpack
      = .finite .positive (2 ^ 23) 41 (by decide) := rfl
  rw [lt_iff, hzero] at hlow
  rw [le_iff, compare_swap, hbound] at hhigh
  have hinf : x.isInf = x.toModel.unpack.isInf := rfl
  obtain ⟨s, h⟩ | ⟨s, h, hmagnitude⟩ | ⟨s, m, e, hm, h, hmagnitude, hlt⟩ := unpack_cases hx
  · rw [h] at hlow hhigh
    cases s with
    | positive => exact absurd ⟨_, rfl, rfl⟩ hhigh
    | negative => exact absurd rfl hlow
  · rw [hinf, h, hmagnitude]
    exact ⟨rfl, (Nat.zero_mul _).symm ▸ Nat.two_pow_pos 64⟩
  · rw [hinf, h, hmagnitude]
    rw [h] at hlow hhigh
    refine ⟨rfl, ?_⟩
    cases s with
    | negative => exact absurd rfl hlow
    | positive =>
      have hless : (compare e 41).then (compare m (2 ^ 23)) = .lt := by
        cases ho : (compare e 41).then (compare m (2 ^ 23)) with
        | lt => rfl
        | _ => exact absurd ⟨_, congrArg (Option.map Ordering.swap ∘ some) ho, rfl⟩ hhigh
      rw [Ordering.then_eq_lt, Int.compare_eq_lt, Nat.compare_eq_lt, Int.compare_eq_eq] at hless
      obtain hexponent | ⟨rfl, hmantissa⟩ := hless
      · have hscale : 2 ^ e.toNat ≤ 2 ^ 40 := Nat.pow_le_pow_right (by decide) (by omega)
        calc m * 2 ^ e.toNat
            ≤ m * 2 ^ 40 := Nat.mul_le_mul_left m hscale
          _ < 2 ^ 24 * 2 ^ 40 := Nat.mul_lt_mul_of_pos_right hlt (Nat.two_pow_pos 40)
          _ = 2 ^ 64 := (Nat.pow_add 2 24 40).symm
      · calc m * 2 ^ 41
            < 2 ^ 23 * 2 ^ 41 := Nat.mul_lt_mul_of_pos_right hmantissa (Nat.two_pow_pos 41)
          _ = 2 ^ 64 := (Nat.pow_add 2 23 41).symm

end Single

end TurtleTree
