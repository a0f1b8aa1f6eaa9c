/-
TurtleTree/Proofs/Number/Order.lean

The order of single precision numbers, as far as clamping needs it.

Numbers are compared by their signs, exponents and mantissas, and two of them always
compare in some way.  What is not a number compares in no way, hence the order is
total on numbers and on nothing else (`Single.le_of_not_lt`).

Main result: clamping brings a number between its bounds (`Single.clamp_within`).
-/
import TurtleTree.Parameters

namespace TurtleTree

namespace Single

open Float.Model

/-- Compared the other way round, the outcome is the other way round. -/
theorem compare_swap (u v : UnpackedFloat) : v.compare u = (u.compare v).map Ordering.swap := by
  have hparts : ∀ (e f : Int) (m n : Nat),
      ((compare e f).then (compare m n)).swap = (compare f e).then (compare n m) := by
    intro e f m n
    rw [Ordering.swap_then, Int.compare_swap, Nat.compare_swap]
  cases u with
  | notANumber => cases v <;> rfl
  | infinity s =>
    cases v with
    | finite t n f hn => cases s <;> rfl
    | zero t => cases s <;> rfl
    | infinity t => cases s <;> cases t <;> rfl
    | notANumber => cases s <;> rfl
  | zero s =>
    cases v with
    | finite t n f hn => cases t <;> rfl
    | infinity t => cases t <;> rfl
    | zero t => rfl
    | notANumber => rfl
  | finite s m e hm =>
    cases v with
    | finite t n f hn =>
      have hswapped := (hparts e f m n).symm
      rcases s with - | - <;> rcases t with - | -
      · exact congrArg (fun o => some o.swap) hswapped
      · rfl
      · rfl
      · exact congrArg some hswapped
    | infinity t => cases t <;> rfl
    | zero t => cases s <;> rfl
    | notANumber => cases s <;> rfl

/-- Two numbers compare in some way. -/
theorem exists_compare {u v : UnpackedFloat} (hu : u.isNaN = false) (hv : v.isNaN = false) :
    ∃ o, u.compare v = some o := by
  cases u with
  | notANumber => exact nomatch hu
  | infinity s =>
    cases v with
    | notANumber => exact nomatch hv
    | _ => cases s <;> exact ⟨_, rfl⟩
  | zero s =>
    cases v with
    | notANumber => exact nomatch hv
    | zero t => exact ⟨_, rfl⟩
    | infinity t => cases t <;> exact ⟨_, rfl⟩
    | finite t n f hn => cases t <;> exact ⟨_, rfl⟩
  | finite s m e hm =>
    cases v with
    | notANumber => exact nomatch hv
    | zero t => cases s <;> exact ⟨_, rfl⟩
    | infinity t => cases t <;> exact ⟨_, rfl⟩
    | finite t n f hn => cases s <;> cases t <;> exact ⟨_, rfl⟩

theorem lt_iff {x y : Float32} :
    x < y ↔ x.toModel.unpack.compare y.toModel.unpack = some .lt := by
  have hlt : (x < y) = (decide (x.toModel.unpack.lt y.toModel.unpack = true) = true) := rfl
  rw [hlt, decide_eq_true_iff, UnpackedFloat.lt]
  exact beq_iff_eq

theorem le_iff {x y : Float32} :
    x ≤ y ↔ ∃ o, x.toModel.unpack.compare y.toModel.unpack = some o ∧ o.isLE = true := by
  have hle : (x ≤ y) = (decide (x.toModel.unpack.le y.toModel.unpack = true) = true) := rfl
  rw [hle, decide_eq_true_iff, UnpackedFloat.le, Option.any_eq_true]

/-- The order is total on numbers. -/
theorem le_of_not_lt {x y : Float32} (hx : x.isNaN = false) (hy : y.isNaN = false)
    (h : ¬ x < y) : y ≤ x := by
  obtain ⟨o, ho⟩ := exists_compare hx hy
  rw [lt_iff, ho] at h
  rw [le_iff, compare_swap, ho]
  refine ⟨o.swap, rfl, ?_⟩
  cases o with
  | lt => exact absurd rfl h
  | eq => rfl
  | gt => rfl

/-- What is less or equal is not greater. -/
theorem not_lt_of_le {x y : Float32} (h : x ≤ y) : ¬ y < x := by
  obtain ⟨o, ho, hle⟩ := le_iff.mp h
  rw [lt_iff, compare_swap, ho]
  intro hswap
  cases o with
  | lt => exact nomatch hswap
  | eq => exact nomatch hswap
  | gt => exact nomatch hle

/-- What is not a number is not less than anything, nor is anything less than it. -/
theorem not_lt_of_isNaN {x : Float32} (hx : x.isNaN = true) (y : Float32) :
    ¬ x < y ∧ ¬ y < x := by
  have hunpack : x.toModel.unpack = .notANumber := by
    have hmodel : x.toModel.unpack.isNaN = true := hx
    cases hparts : x.toModel.unpack with
    | notANumber => rfl
    | _ => rw [hparts] at hmodel; exact nomatch hmodel
  constructor
  · rw [lt_iff, hunpack]
    exact nofun
  · rw [lt_iff, compare_swap, hunpack]
    exact nofun

/-- So no bound stops it. -/
theorem clamp_of_isNaN {x : Float32} (low high : Float32) (hx : x.isNaN = true) :
    clamp low high x = x := by
  rw [clamp, if_neg (not_lt_of_isNaN hx low).1, if_neg (not_lt_of_isNaN hx high).2]

/-- **Clamping** brings a number between its bounds. -/
theorem clamp_within {low high x : Float32} (hlow : low.isNaN = false)
    (hhigh : high.isNaN = false) (hordered : low ≤ high) (hx : x.isNaN = false) :
    low ≤ clamp low high x ∧ clamp low high x ≤ high := by
  have hirrefl : ∀ {y : Float32}, ¬ y < y := by
    intro y hy
    rw [lt_iff] at hy
    have hswap := compare_swap y.toModel.unpack y.toModel.unpack
    rw [hy] at hswap
    exact nomatch hswap
  rw [clamp]
  split
  · exact ⟨le_of_not_lt hlow hlow hirrefl, hordered⟩
  · next hbelow =>
    split
    · exact ⟨hordered, le_of_not_lt hhigh hhigh hirrefl⟩
    · next habove => exact ⟨le_of_not_lt hx hlow hbelow, le_of_not_lt hhigh hx habove⟩

end Single

end TurtleTree
