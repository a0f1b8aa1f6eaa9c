/-
TurtleTree/Proofs/Grammar/Passes.lean

Expansions by the number of their passes.

An expansion that was begun and has made `k` of its passes is known completely:
its string is the start string after `k` passes and its counter stands at `k`
(`Expansion.after`).  The counter has 32 bits, and so has the number of passes
asked for; the counter never leaves that range, because a pass is only made
while it lies below the number asked for.

Main result: the expansion of a string by `n` passes ends with the string after
`n` passes (`Expansion.finish_begin`).
-/
import TurtleTree.Grammar.Expansion

namespace TurtleTree

namespace RuleSet

/-- The last of `n + 1` passes, taken apart. -/
theorem applyTimes_succ (r : RuleSet) (n : Nat) (input : String) :
    r.applyTimes (n + 1) input = r.apply (r.applyTimes n input) := by
  induction n generalizing input with
  | zero => rfl
  | succ n ih => exact ih (r.apply input)

end RuleSet

namespace Expansion

variable {r : RuleSet} {start : String} {n : UInt32} {k : Nat}

/-- The expansion of `start` by `n` passes that has made `k` of them. -/
def after (r : RuleSet) (start : String) (n : UInt32) (k : Nat) : Expansion :=
  ⟨r, r.applyTimes k start, UInt32.ofNat k, n⟩

@[simp] theorem after_zero : after r start n 0 = begin r start n := rfl

/-- The counter does not wrap around below the number of passes asked for. -/
theorem toNat_completed_after (h : k ≤ n.toNat) :
    (after r start n k).completed.toNat = k := by
  -- `k` is no more than a number of 32 bits, so it survives the counter
  have hn := n.toNat_lt
  show (UInt32.ofNat k).toNat = k
  rw [UInt32.toNat_ofNat', Nat.mod_eq_of_lt (by omega)]

theorem remaining_after (h : k ≤ n.toNat) :
    (after r start n k).remaining = n.toNat - k := by
  rw [remaining, toNat_completed_after h]
  rfl

theorem isFinished_after (h : k ≤ n.toNat) :
    (after r start n k).isFinished = decide (n.toNat = k) := by
  have hk : (after r start n k).completed.toNat = k := toNat_completed_after h
  simp only [isFinished, UInt32.le_iff_toNat_le, hk, decide_eq_decide]
  show n.toNat ≤ k ↔ n.toNat = k
  omega

/-- A pass moves the expansion on by one. -/
theorem advance?_after (h : k < n.toNat) :
    (after r start n k).advance? = some (after r start n (k + 1)) := by
  have hfin : (after r start n k).isFinished = false := by
    rw [isFinished_after (by omega)]
    exact decide_eq_false (by omega)
  have hcount : UInt32.ofNat k + 1 = UInt32.ofNat (k + 1) := by simp
  rw [advance?, hfin, if_neg Bool.false_ne_true]
  simp only [after, hcount, RuleSet.applyTimes_succ]

theorem advanceTimes_after {m : Nat} (h : k + m ≤ n.toNat) :
    advanceTimes m (after r start n k) = after r start n (k + m) := by
  induction m generalizing k with
  | zero => rfl
  | succ m ih =>
    rw [advanceTimes, advance, advance?_after (by omega), Option.getD_some, ih (by omega)]
    congr 1
    omega

/-- **Full expansion.**  The passes left of a begun expansion are those asked for. -/
theorem finish_begin (r : RuleSet) (start : String) (n : UInt32) :
    (begin r start n).finish = r.applyTimes n.toNat start := by
  have h : advanceTimes n.toNat (after r start n 0) = after r start n (0 + n.toNat) :=
    advanceTimes_after (by omega)
  rw [Nat.zero_add, after_zero] at h
  show (advanceTimes n.toNat (begin r start n)).current = _
  rw [h]
  rfl

end Expansion

end TurtleTree
