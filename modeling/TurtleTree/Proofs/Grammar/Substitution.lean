/-
TurtleTree/Proofs/Grammar/Substitution.lean

Passes are parallel substitution.

What a pass makes of a symbol depends on this symbol alone, never on its neighbours and
never on what the pass has written already.  So a pass of joined strings is the joined
passes (`RuleSet.apply_append`), and with what single symbols become this says all about
a pass.  Both laws go on to many passes, by induction on their number: the passes of joined
strings are joined (`RuleSet.applyTimes_append`), and passes after passes are passes of
the sum (`RuleSet.applyTimes_add`).

Any additive measure of strings that no rule makes smaller is not made smaller by a pass
(`RuleSet.le_measure_apply`).  Octets and symbols are two such measures.

Main result: `RuleSet.parallel_substitution`.
-/
import TurtleTree.Proofs.Grammar.Passes
import Mathlib.Data.String.Basic

namespace TurtleTree

namespace RuleSet

variable {r : RuleSet}

/-! ### One pass -/

theorem apply_append (r : RuleSet) (s t : String) : r.apply (s ++ t) = r.apply s ++ r.apply t := by
  rw [apply, String.toList_append, List.flatMap_append, String.ofList_append]
  rfl

/-- A symbol that owns a rule becomes the successor. -/
theorem apply_singleton {x : Char} {w : String} (h : r.successor? x = some w) :
    r.apply (String.singleton x) = w := by
  have himage : r.image x = w.toList := by rw [image, h]
  rw [apply, String.toList_singleton, List.flatMap_singleton, himage, String.ofList_toList]

/-- A string of symbols that own no rule stays as it is. -/
theorem apply_of_forall_notMem {s : String} (h : ∀ rule ∈ r.rules, rule.predecessor ∉ s.toList) :
    r.apply s = s := by
  have hself : ∀ x ∈ s.toList, r.image x = [x] := by
    intro x hx
    rcases r.image_cases x with ⟨rule, hrule, rfl, -⟩ | ⟨-, himage⟩
    · exact absurd hx (h rule hrule)
    · exact himage
  rw [apply, List.flatMap_congr hself, List.flatMap_singleton', String.ofList_toList]

/-! ### Measures -/

section Measures

variable {μ : List Char → Nat}

/-- It is enough to look at the rules. -/
theorem le_measure_image (h : ∀ rule ∈ r.rules, μ [rule.predecessor] ≤ μ rule.successor.toList)
    (x : Char) : μ [x] ≤ μ (r.image x) := by
  rcases r.image_cases x with ⟨rule, hrule, rfl, himage⟩ | ⟨-, himage⟩
  · rw [himage]
    exact h rule hrule
  · rw [himage]

/-- A measure that adds up over joined strings and that no rule makes smaller is not made
smaller by a pass. -/
theorem le_measure_apply (hadd : ∀ s u, μ (s ++ u) = μ s + μ u)
    (h : ∀ rule ∈ r.rules, μ [rule.predecessor] ≤ μ rule.successor.toList) (s : String) :
    μ s.toList ≤ μ (r.apply s).toList := by
  rw [toList_apply]
  induction s.toList with
  | nil => exact Nat.le_refl _
  | cons x s ih =>
    calc μ (x :: s) = μ [x] + μ s := hadd [x] s
      _ ≤ μ (r.image x) + μ (s.flatMap r.image) := Nat.add_le_add (le_measure_image h x) ih
      _ = μ ((x :: s).flatMap r.image) := by rw [List.flatMap_cons, hadd]

end Measures

/-- No rule of the catalogue makes a string shorter, in octets or in symbols. -/
theorem length_le_apply_of_mem_catalogue (h : r ∈ catalogue) (s : String) :
    s.utf8ByteSize ≤ (r.apply s).utf8ByteSize ∧ s.length ≤ (r.apply s).length := by
  have hoctets : ∀ r ∈ catalogue, ∀ rule ∈ r.rules,
      String.utf8Len [rule.predecessor] ≤ String.utf8Len rule.successor.toList := by
    decide +kernel
  have hsymbols : ∀ r ∈ catalogue, ∀ rule ∈ r.rules,
      [rule.predecessor].length ≤ rule.successor.toList.length := by decide +kernel
  constructor
  · simpa only [String.utf8Len_toList] using
      le_measure_apply String.utf8Len_append (hoctets r h) s
  · simpa only [String.length_toList] using
      le_measure_apply (fun _ _ => List.length_append) (hsymbols r h) s

/-! ### Many passes -/

theorem applyTimes_append (r : RuleSet) (n : Nat) (s t : String) :
    r.applyTimes n (s ++ t) = r.applyTimes n s ++ r.applyTimes n t := by
  induction n generalizing s t with
  | zero => rfl
  | succ n ih => rw [applyTimes, apply_append, ih, applyTimes, applyTimes]

theorem applyTimes_add (r : RuleSet) (m n : Nat) (s : String) :
    r.applyTimes (m + n) s = r.applyTimes n (r.applyTimes m s) := by
  induction m generalizing s with
  | zero => rw [Nat.zero_add, applyTimes]
  | succ m ih => rw [Nat.succ_add, applyTimes, applyTimes, ih]

/-- **Passes are parallel substitution and compose.**

* A pass of joined strings is the joined passes; a symbol that owns a rule becomes its
  successor; and a string without such symbols stays as it is.
* No catalogued rule set makes a string shorter, in octets or in symbols.
* An expansion of joined strings ends with the joined ends, and an expansion by `n` passes of
  the end of an expansion by `m` passes ends like an expansion by `m + n` passes. -/
theorem parallel_substitution (r : RuleSet) :
    ((∀ s t, r.apply (s ++ t) = r.apply s ++ r.apply t) ∧
      (∀ x w, r.successor? x = some w → r.apply (String.singleton x) = w) ∧
      ∀ s, (∀ rule ∈ r.rules, rule.predecessor ∉ s.toList) → r.apply s = s) ∧
    (r ∈ catalogue → ∀ s,
      s.utf8ByteSize ≤ (r.apply s).utf8ByteSize ∧ s.length ≤ (r.apply s).length) ∧
    (∀ s t n, (Expansion.begin r (s ++ t) n).finish
      = (Expansion.begin r s n).finish ++ (Expansion.begin r t n).finish) ∧
    ∀ (s : String) (m n : UInt32), m.toNat + n.toNat < 2 ^ 32 →
      (Expansion.begin r (Expansion.begin r s m).finish n).finish
        = (Expansion.begin r s (m + n)).finish := by
  refine ⟨⟨r.apply_append, fun x w => apply_singleton, fun s => apply_of_forall_notMem⟩,
    length_le_apply_of_mem_catalogue, ?_, ?_⟩
  · intro s t n
    simp only [Expansion.finish_begin]
    exact r.applyTimes_append n.toNat s t
  · intro s m n hfits
    have hsum : (m + n).toNat = m.toNat + n.toNat := by
      rw [UInt32.toNat_add, Nat.mod_eq_of_lt hfits]
    simp only [Expansion.finish_begin, hsum]
    exact (r.applyTimes_add m.toNat n.toNat s).symm

/-- The fifth rule set, on strings with symbols of two octets and more. -/
theorem parallel_substitution_accented :
    let r := select ⟨5⟩
    (r ∈ catalogue ∧ "[é→]".utf8ByteSize ≤ (r.apply "[é→]").utf8ByteSize) ∧
    (r.successor? 'G' = some "GG" ∧ r.apply (String.singleton 'G') = "GG") ∧
    ((∀ rule ∈ r.rules, rule.predecessor ∉ "[é→]".toList) ∧ r.apply "[é→]" = "[é→]") ∧
    (3 : UInt32).toNat + (4 : UInt32).toNat < 2 ^ 32 ∧
    (Expansion.begin r (Expansion.begin r "FéG" 3).finish 4).finish
      = (Expansion.begin r "FéG" (3 + 4)).finish := by
  intro r
  obtain ⟨⟨-, hrule, hself⟩, hlength, -, hsum⟩ := parallel_substitution r
  have hmem : r ∈ catalogue := by decide +kernel
  have howned : r.successor? 'G' = some "GG" := by decide +kernel
  have hnone : ∀ rule ∈ r.rules, rule.predecessor ∉ "[é→]".toList := by decide +kernel
  have hfits : (3 : UInt32).toNat + (4 : UInt32).toNat < 2 ^ 32 := by decide
  exact ⟨⟨hmem, (hlength hmem _).1⟩, ⟨howned, hrule _ _ howned⟩, ⟨hnone, hself _ hnone⟩, hfits,
    hsum _ _ _ hfits⟩

end RuleSet

end TurtleTree
