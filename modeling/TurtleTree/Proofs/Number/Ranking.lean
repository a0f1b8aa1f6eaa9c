/-
TurtleTree/Proofs/Number/Ranking.lean

The place of a number among all numbers.

Numbers are compared by sign, then by exponent, then by mantissa, and the negative ones
the other way round.  That is the lexicographic order of three integers (`Single.rank`),
so what holds of every linear order holds of numbers, and infinities are no exception:
the order is transitive (`Single.le_trans`), and two numbers that are not greater than
each other are equal (`Single.beq_of_le_of_le`).

Main results: the smaller of two numbers is one of them and not greater than either
(`Single.min_cases`), and likewise the larger (`Single.max_cases`).
-/
import Mathlib.Algebra.Order.Ring.Int
import Mathlib.Data.Prod.Lex
import TurtleTree.Proofs.Number.Order

namespace TurtleTree

namespace Single

open Float.Model

/-! ### Ranks -/

/-- The rank of a number: its sign, then its exponent, then its mantissa.  Both zeros have the
same. -/
def rank : UnpackedFloat → Int ×ₗ Int ×ₗ Int
  | .infinity .negative => toLex (-2, toLex (0, 0))
  | .finite .negative m e _ => toLex (-1, toLex (-e, -m))
  | .zero _ | .notANumber => toLex (0, toLex (0, 0))
  | .finite .positive m e _ => toLex (1, toLex (e, (m : Int)))
  | .infinity .positive => toLex (2, toLex (0, 0))

theorem isLE_then_compare (e f : Int) (m n : Nat) :
    ((compare e f).then (compare m n)).isLE = true ↔ e < f ∨ e = f ∧ m ≤ n := by
  rw [Ordering.isLE_then_iff_or, Int.compare_eq_lt, Int.compare_eq_eq, Nat.isLE_compare]

theorem isGE_then_compare (e f : Int) (m n : Nat) :
    ((compare e f).then (compare m n)).isGE = true ↔ f < e ∨ e = f ∧ n ≤ m := by
  rw [← Ordering.isLE_swap, Ordering.swap_then, Int.compare_swap, Nat.compare_swap,
    isLE_then_compare, eq_comm]

/-- Numbers compare as their ranks do. -/
theorem isLE_compare_iff {u v : UnpackedFloat} (hu : u.isNaN = false) (hv : v.isNaN = false) :
    (u.compare v).any Ordering.isLE = true ↔ rank u ≤ rank v := by
  cases u with
  | notANumber => exact nomatch hu
  | infinity s =>
    cases v with
    | notANumber => exact nomatch hv
    | infinity t => cases s <;> cases t <;> decide
    | zero t => cases s <;> cases t <;> decide
    | finite t n f hn =>
      cases s <;> cases t <;> dsimp only [UnpackedFloat.compare, rank] <;>
        simp [Prod.Lex.toLex_le_toLex]
  | zero s =>
    cases v with
    | notANumber => exact nomatch hv
    | infinity t => cases s <;> cases t <;> decide
    | zero t => cases s <;> cases t <;> decide
    | finite t n f hn =>
      cases t <;> dsimp only [UnpackedFloat.compare, rank] <;> simp [Prod.Lex.toLex_le_toLex]
  | finite s m e hm =>
    cases v with
    | notANumber => exact nomatch hv
    | infinity t =>
      cases s <;> cases t <;> dsimp only [UnpackedFloat.compare, rank] <;>
        simp [Prod.Lex.toLex_le_toLex]
    | zero t =>
      cases s <;> dsimp only [UnpackedFloat.compare, rank] <;> simp [Prod.Lex.toLex_le_toLex]
    | finite t n f hn =>
      rcases s with - | - <;> rcases t with - | - <;> dsimp only [UnpackedFloat.compare, rank]
      · simp [Prod.Lex.toLex_le_toLex, isGE_then_compare]
      · simp [Prod.Lex.toLex_le_toLex]
      · simp [Prod.Lex.toLex_le_toLex]
      · simp [Prod.Lex.toLex_le_toLex, isLE_then_compare]

/-! ### The order -/

/-- Only numbers are less or equal. -/
theorem isNaN_of_le {x y : Float32} (h : x ≤ y) : x.isNaN = false ∧ y.isNaN = false := by
  obtain ⟨o, ho, -⟩ := le_iff.mp h
  have hx : x.isNaN = x.toModel.unpack.isNaN := rfl
  have hy : y.isNaN = y.toModel.unpack.isNaN := rfl
  rw [hx, hy]
  generalize x.toModel.unpack = u at ho
  generalize y.toModel.unpack = v at ho
  cases u with
  | notANumber => exact nomatch ho
  | _ =>
    cases v with
    | notANumber => exact nomatch ho
    | _ => exact ⟨rfl, rfl⟩

theorem le_iff_rank {x y : Float32} (hx : x.isNaN = false) (hy : y.isNaN = false) :
    x ≤ y ↔ rank x.toModel.unpack ≤ rank y.toModel.unpack := by
  rw [← isLE_compare_iff hx hy, le_iff, Option.any_eq_true]

theorem le_trans {x y z : Float32} (hxy : x ≤ y) (hyz : y ≤ z) : x ≤ z := by
  obtain ⟨hx, hy⟩ := isNaN_of_le hxy
  obtain ⟨-, hz⟩ := isNaN_of_le hyz
  rw [le_iff_rank hx hz]
  exact ((le_iff_rank hx hy).mp hxy).trans ((le_iff_rank hy hz).mp hyz)

theorem le_refl {x : Float32} (hx : x.isNaN = false) : x ≤ x :=
  (le_iff_rank hx hx).mpr le_rfl

theorem le_of_lt {x y : Float32} (h : x < y) : x ≤ y :=
  le_iff.mpr ⟨.lt, lt_iff.mp h, rfl⟩

/-- Numbers that are not greater than each other are equal. -/
theorem beq_of_le_of_le {x y : Float32} (hxy : x ≤ y) (hyx : y ≤ x) : (x == y) = true := by
  obtain ⟨o, ho, hle⟩ := le_iff.mp hxy
  obtain ⟨o', ho', hge⟩ := le_iff.mp hyx
  have hequal : (x == y) = (x.toModel.unpack.compare y.toModel.unpack == some .eq) := rfl
  rw [compare_swap, ho, Option.map_some] at ho'
  obtain rfl := Option.some.inj ho'
  rw [hequal, ho]
  cases o with
  | eq => rfl
  | lt => exact nomatch hge
  | gt => exact nomatch hle

/-! ### Extremes -/

/-- **The smaller** of two numbers is one of them, and not greater than the other. -/
theorem min_cases {x y : Float32} (hx : x.isNaN = false) (hy : y.isNaN = false) :
    min x y = x ∧ x ≤ y ∨ min x y = y ∧ y ≤ x := by
  simp only [min, hx, hy, Bool.false_eq_true, if_false]
  split
  · next h => exact Or.inr ⟨rfl, le_of_lt h⟩
  · next h => exact Or.inl ⟨rfl, le_of_not_lt hy hx h⟩

/-- **The larger** of two numbers is one of them, and the other is not greater. -/
theorem max_cases {x y : Float32} (hx : x.isNaN = false) (hy : y.isNaN = false) :
    max x y = x ∧ y ≤ x ∨ max x y = y ∧ x ≤ y := by
  simp only [max, hx, hy, Bool.false_eq_true, if_false]
  split
  · next h => exact Or.inr ⟨rfl, le_of_lt h⟩
  · next h => exact Or.inl ⟨rfl, le_of_not_lt hx hy h⟩

end Single

end TurtleTree
