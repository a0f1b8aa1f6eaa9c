/-
TurtleTree/Proofs/Number/Distance.lean

The distance of two numbers, `(x - y).abs`.

Subtraction is exact before it is rounded, and rounding does not look at the sign.
So exchanged operands lead to the same number up to its sign, and their distance is
the same word (`Single.abs_sub_comm`).

Two infinities of one sign have no difference.  All other numbers have one, it may
be an infinity, and so have a distance that compares with every number
(`Single.isNaN_abs_sub`).
-/
import TurtleTree.Proofs.Number.Order
import TurtleTree.Proofs.Number.Packing

namespace TurtleTree

namespace Single

open Float.Model

open UnpackedFloat (Sign)

/-! ### Signs -/

/-- Rounding does not look at the sign. -/
theorem abs_round (f : Format) (s t : Sign) (m : Nat) (e : Int) :
    (UnpackedFloat.round f s m e).abs = (UnpackedFloat.round f t m e).abs := by
  simp only [UnpackedFloat.round, UnpackedFloat.roundWithAccuracy]
  split <;> rfl

/-- Nor does it for a sum that comes out the other way round. -/
theorem abs_normalize_neg (f : Format) (m e : Int) (zero : Sign) :
    (UnpackedFloat.normalize f (-m) e zero).abs = (UnpackedFloat.normalize f m e zero).abs := by
  rcases Int.lt_trichotomy m 0 with hm | rfl | hm
  · have hneg : compare (-m) 0 = .gt := Int.compare_eq_gt.mpr (by omega)
    rw [UnpackedFloat.normalize, UnpackedFloat.normalize, hneg, Int.compare_eq_lt.mpr hm]
    exact abs_round f _ _ _ _
  · rfl
  · have hneg : compare (-m) 0 = .lt := Int.compare_eq_lt.mpr (by omega)
    rw [UnpackedFloat.normalize, UnpackedFloat.normalize, hneg, Int.compare_eq_gt.mpr hm,
      Int.neg_neg]
    exact abs_round f _ _ _ _

/-- Exchanged operands have the same difference up to its sign. -/
theorem abs_unpacked_sub_comm (f : Format) (u v : UnpackedFloat) :
    (UnpackedFloat.sub f u v).abs = (UnpackedFloat.sub f v u).abs := by
  cases u with
  | notANumber => cases v <;> rfl
  | infinity s =>
    cases v with
    | infinity t => cases s <;> cases t <;> rfl
    | _ => rfl
  | zero s =>
    cases v with
    | zero t => cases s <;> cases t <;> rfl
    | _ => rfl
  | finite s m e hm =>
    cases v with
    | finite t n d hn =>
      -- the mantissas are brought to one exponent, whichever of them comes first
      have hswap := fun x y => abs_normalize_neg f (x - y) (Min.min e d) .positive
      simp only [Int.neg_sub] at hswap
      simp only [UnpackedFloat.sub, Int.min_comm d e]
      exact (hswap _ _).symm
    | _ => rfl

/-! ### Distances -/

/-- The distance in terms of its parts. -/
theorem abs_sub_eq (x y : Float32) :
    (x - y).abs = ⟨Float32.Model.pack (UnpackedFloat.unpack .binary32 (UnpackedFloat.pack .binary32
      (UnpackedFloat.sub .binary32 x.toModel.unpack y.toModel.unpack))).abs⟩ := rfl

/-- **The distance** of two numbers is the same from both sides. -/
theorem abs_sub_comm (x y : Float32) : (x - y).abs = (y - x).abs := by
  rw [abs_sub_eq, abs_sub_eq, abs_unpack_pack, abs_unpacked_sub_comm, ← abs_unpack_pack]

theorem isNaN_normalize (f : Format) (m e : Int) (zero : Sign) :
    (UnpackedFloat.normalize f m e zero).isNaN = false := by
  have hround : ∀ s k, (UnpackedFloat.round f s k e).isNaN = false := by
    intro s k
    simp only [UnpackedFloat.round, UnpackedFloat.roundWithAccuracy]
    split <;> rfl
  rw [UnpackedFloat.normalize]
  split
  · exact hround _ _
  · rfl
  · exact hround _ _

/-- Two numbers have a difference, unless they are the same infinity. -/
theorem isNaN_unpacked_sub (f : Format) {u v : UnpackedFloat} (hu : u.isNaN = false)
    (hv : v.isNaN = false) (hne : u ≠ v) : (UnpackedFloat.sub f u v).isNaN = false := by
  cases u with
  | notANumber => exact nomatch hu
  | infinity s =>
    cases v with
    | notANumber => exact nomatch hv
    | infinity t =>
      cases s <;> cases t
      · exact absurd rfl hne
      · rfl
      · rfl
      · exact absurd rfl hne
    | _ => rfl
  | zero s =>
    cases v with
    | notANumber => exact nomatch hv
    | zero t => cases s <;> cases t <;> rfl
    | _ => rfl
  | finite s m e hm =>
    cases v with
    | notANumber => exact nomatch hv
    | finite t n d hn => exact isNaN_normalize f _ _ _
    | _ => rfl

/-- **Different numbers** have a distance. -/
theorem isNaN_abs_sub {x y : Float32} (hx : x.isNaN = false) (hy : y.isNaN = false)
    (hne : x ≠ y) : (x - y).abs.isNaN = false := by
  have hparts : x.toModel.unpack ≠ y.toModel.unpack := by
    intro h
    rw [← pack_unpack x, h, pack_unpack y] at hne
    exact hne rfl
  have habs : ∀ u : UnpackedFloat, u.abs.isNaN = u.isNaN := by
    intro u
    cases u <;> rfl
  have hsub := isNaN_unpack_pack .binary32 (isNaN_unpacked_sub .binary32 hx hy hparts)
  rw [abs_sub_eq]
  exact isNaN_unpack_pack .binary32 ((habs _).trans hsub)

/-- What is not a number has no distance from anything. -/
theorem isNaN_abs_sub_of_isNaN {x y : Float32} (h : x.isNaN = true ∨ y.isNaN = true) :
    (x - y).abs.isNaN = true := by
  have hmodel : x.toModel.unpack.isNaN = true ∨ y.toModel.unpack.isNaN = true := h
  have hsub : UnpackedFloat.sub .binary32 x.toModel.unpack y.toModel.unpack = .notANumber := by
    rcases hmodel with h | h
    · rw [UnpackedFloat.isNaN_iff.mp h]
      cases y.toModel.unpack <;> rfl
    · rw [UnpackedFloat.isNaN_iff.mp h]
      cases x.toModel.unpack <;> rfl
  rw [abs_sub_eq, hsub]
  decide +kernel

end Single

end TurtleTree
