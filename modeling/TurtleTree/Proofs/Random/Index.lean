/-
TurtleTree/Proofs/Random/Index.lean

Indices that are drawn lie below their bound.

A draw multiplies a word of 64 bits by the bound and keeps the part of the product
above these bits.  That part is below the bound for every word, so it does not
matter which draw of several is taken (`VarianceProvider.drawBelow_lt`).  An index
into a palette of at most `2 ^ 32` colours thus is a word of 32 bits
(`VarianceProvider.exists_drawIndex`).
-/
import TurtleTree.Random.Variance

namespace TurtleTree

namespace VarianceProvider

/-- Every draw is below the bound. -/
theorem drawBelow_lt {n : Nat} (hn : 0 < n) (zone tries : Nat) (source : WordSource) :
    (drawBelow n zone tries source).1 < n := by
  have hword : ∀ word : UInt64, word.toNat * n / 2 ^ 64 < n := by
    intro word
    refine Nat.div_lt_of_lt_mul ?_
    exact Nat.mul_lt_mul_of_pos_right word.toNat_lt hn
  induction tries generalizing source with
  | zero => exact hword _
  | succ tries ih =>
    show (if source.nextPair.1.toNat * n % 2 ^ 64 ≤ zone
        then (source.nextPair.1.toNat * n / 2 ^ 64, source.nextPair.2)
        else drawBelow n zone tries source.nextPair.2).1 < n
    split
    · exact hword _
    · exact ih _

/-- From a palette that is not empty an index is drawn, and it is a word of 32 bits if the
palette has no more colours than there are such words. -/
theorem exists_drawIndex {n : Nat} (hsome : n ≠ 0) (hfew : n ≤ 2 ^ 32) (p : VarianceProvider) :
    ∃ w : UInt32, (p.drawIndex n).1 = some w.toNat ∧ w.toNat < n := by
  have hlt : (drawBelow n (evenZone n) 4096 p.source).1 < n :=
    drawBelow_lt (Nat.pos_of_ne_zero hsome) _ _ _
  have hword : (UInt32.ofNat (drawBelow n (evenZone n) 4096 p.source).1).toNat
      = (drawBelow n (evenZone n) 4096 p.source).1 :=
    UInt32.toNat_ofNat_of_lt' (Nat.lt_of_lt_of_le hlt hfew)
  refine ⟨UInt32.ofNat (drawBelow n (evenZone n) 4096 p.source).1, ?_, ?_⟩
  · rw [hword, drawIndex, if_neg hsome]
  · rw [hword]
    exact hlt

end VarianceProvider

end TurtleTree
