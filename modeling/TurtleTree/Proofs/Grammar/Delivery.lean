/-
TurtleTree/Proofs/Grammar/Delivery.lean

An expansion hands out its passes once and in order, however it is used.

There are several ways to use an expansion: to advance it, to take its next string, to
look at it, or to finish a copy of it.  All of them share one counter, and only the first
two move it (`Call.moves`).  So after any calls the expansion is known from the number `j`
of those that move it alone: it has made `min j n` of its `n` passes, and every answer is
a function of `j` (`Expansion.due`).  This is said of one call (`answer_after`) and goes
on to any sequence of them (`driven_after`).

Main result: `Expansion.delivers`.
-/
import TurtleTree.Proofs.Grammar.Passes

namespace TurtleTree

namespace Expansion

/-! ### Calls -/

/-- What an expansion can be asked without being used up. -/
inductive Call where
  /-- Make one more pass and show its string. -/
  | advance
  /-- Take the string of the next pass. -/
  | next
  /-- Show the string of the last pass. -/
  | current
  /-- Count the passes left. -/
  | remaining
  /-- Make all passes left of a copy and show the last string. -/
  | finishCopy
deriving DecidableEq, Repr

/-- What an expansion answers. -/
inductive Answer where
  | pass (string : Option String)
  | string (s : String)
  | count (n : Nat)
deriving DecidableEq, Repr

/-- The call makes a pass, if there is one left. -/
def Call.moves : Call → Bool
  | .advance => true
  | .next => true
  | .current => false
  | .remaining => false
  | .finishCopy => false

/-- The answer to a call and the expansion after it. -/
def answer (e : Expansion) : Call → Answer × Expansion
  | .advance => (.pass (e.advance?.map current), e.advance)
  | .next => (.pass e.next.1, e.next.2)
  | .current => (.string e.current, e)
  | .remaining => (.count e.remaining, e)
  | .finishCopy => (.string e.finish, e)

/-- The answers to calls, in order, and the expansion after them. -/
def driven (e : Expansion) : List Call → List Answer × Expansion
  | [] => ([], e)
  | c :: cs => ((e.answer c).1 :: ((e.answer c).2.driven cs).1, ((e.answer c).2.driven cs).2)

/-- The answer that is due after `j` calls that move: the next pass while there are any, and
nothing from then on. -/
def due (r : RuleSet) (start : String) (n : UInt32) (j : Nat) : Call → Answer
  | .advance | .next => .pass (if j < n.toNat then some (r.applyTimes (j + 1) start) else none)
  | .current => .string (r.applyTimes (min j n.toNat) start)
  | .remaining => .count (n.toNat - j)
  | .finishCopy => .string (r.applyTimes n.toNat start)

variable {r : RuleSet} {start : String} {n : UInt32} {k : Nat}

/-! ### The passes left -/

theorem advance?_after_all : (after r start n n.toNat).advance? = none := by
  rw [advance?, isFinished_after (Nat.le_refl _), decide_eq_true rfl, if_pos rfl]

theorem advance_after_all : (after r start n n.toNat).advance = after r start n n.toNat := by
  rw [advance, advance?_after_all, Option.getD_none]

/-- Beyond the last pass nothing happens. -/
theorem advanceTimes_after_all (m : Nat) :
    advanceTimes m (after r start n n.toNat) = after r start n n.toNat := by
  induction m with
  | zero => rfl
  | succ m ih => rw [advanceTimes, advance_after_all, ih]

theorem advanceTimes_add (l m : Nat) (e : Expansion) :
    advanceTimes (l + m) e = advanceTimes m (advanceTimes l e) := by
  induction l generalizing e with
  | zero => rw [Nat.zero_add, advanceTimes]
  | succ l ih => rw [Nat.succ_add]; exact ih e.advance

/-- Whoever goes on for as long as there are passes, or longer, makes all of them. -/
theorem advanceTimes_remaining_after (h : k ≤ n.toNat) (m : Nat) :
    advanceTimes ((after r start n k).remaining + m) (after r start n k)
      = after r start n n.toNat := by
  rw [advanceTimes_add, remaining_after h, advanceTimes_after (by omega),
    Nat.add_sub_cancel' h, advanceTimes_after_all]

theorem finish_after (h : k ≤ n.toNat) :
    (after r start n k).finish = r.applyTimes n.toNat start :=
  congrArg current (advanceTimes_remaining_after h 0)

/-- The strings of the passes left come in order, and then there are no more. -/
theorem take_after (h : k ≤ n.toNat) (m : Nat) :
    (after r start n k).take m
      = (List.range (min m (n.toNat - k))).map fun i => r.applyTimes (k + i + 1) start := by
  induction m generalizing k with
  | zero => rw [Nat.zero_min]; rfl
  | succ m ih =>
    rcases Nat.lt_or_eq_of_le h with hlt | rfl
    · have hmin : min (m + 1) (n.toNat - k) = min m (n.toNat - (k + 1)) + 1 := by omega
      rw [take, advance?_after hlt]
      simp only [ih hlt, hmin, List.range_succ_eq_map, List.map_cons, List.map_map]
      refine congrArg (List.cons _) (List.map_congr_left fun i _ => ?_)
      exact congrArg (r.applyTimes · start) (by omega)
    · rw [take, advance?_after_all, Nat.sub_self, Nat.min_zero]
      rfl

theorem collect_after (h : k ≤ n.toNat) :
    (after r start n k).collect
      = (List.range (n.toNat - k)).map fun i => r.applyTimes (k + i + 1) start := by
  rw [collect, remaining_after h, take_after h, Nat.min_self]

/-! ### One call -/

theorem advance_after (j : Nat) :
    (after r start n (min j n.toNat)).advance?.map current
        = (if j < n.toNat then some (r.applyTimes (j + 1) start) else none) ∧
      (after r start n (min j n.toNat)).advance = after r start n (min (j + 1) n.toNat) := by
  rcases Nat.lt_or_ge j n.toNat with hlt | hge
  · rw [Nat.min_eq_left (Nat.le_of_lt hlt), Nat.min_eq_left hlt, if_pos hlt, advance,
      advance?_after hlt]
    exact ⟨rfl, rfl⟩
  · rw [Nat.min_eq_right hge, Nat.min_eq_right (Nat.le_succ_of_le hge), if_neg (by omega),
      advance?_after_all, advance_after_all]
    exact ⟨rfl, rfl⟩

theorem next_eq (e : Expansion) : e.next = (e.advance?.map current, e.advance) := by
  rw [next, advance]
  cases e.advance? <;> rfl

/-- **A call** is answered as is due, and moves the expansion on by one pass at most. -/
theorem answer_after (j : Nat) (c : Call) :
    (after r start n (min j n.toNat)).answer c
      = (due r start n j c, after r start n (min (j + c.moves.toNat) n.toNat)) := by
  obtain ⟨hpass, hmove⟩ := @advance_after r start n j
  have hle : min j n.toNat ≤ n.toNat := Nat.min_le_right j n.toNat
  cases c with
  | advance => rw [answer, hpass, hmove]; rfl
  | next => rw [answer, next_eq, hpass, hmove]; rfl
  | current => rfl
  | remaining =>
    have hleft : n.toNat - min j n.toNat = n.toNat - j := by omega
    rw [answer, remaining_after hle, hleft]
    rfl
  | finishCopy => rw [answer, finish_after hle]; rfl

/-! ### Any calls -/

/-- Any calls are answered as is due, and the number of those that move tells the expansion
after them. -/
theorem driven_after (j : Nat) (cs : List Call) :
    (∀ i, ((after r start n (min j n.toNat)).driven cs).1[i]?
      = cs[i]?.map (due r start n (j + (cs.take i).countP Call.moves))) ∧
    ((after r start n (min j n.toNat)).driven cs).2
      = after r start n (min (j + cs.countP Call.moves) n.toNat) := by
  induction cs generalizing j with
  | nil => exact ⟨fun i => rfl, rfl⟩
  | cons c cs ih =>
    obtain ⟨hanswers, hend⟩ := ih (j + c.moves.toNat)
    have hcount : ∀ ds : List Call,
        (c :: ds).countP Call.moves = c.moves.toNat + ds.countP Call.moves := by
      intro ds
      rw [List.countP_cons, Nat.add_comm]
      cases c.moves <;> rfl
    simp only [driven, answer_after]
    refine ⟨fun i => ?_, ?_⟩
    · cases i with
      | zero => rfl
      | succ i =>
        rw [List.getElem?_cons_succ, List.getElem?_cons_succ, List.take_succ_cons, hcount,
          ← Nat.add_assoc]
        exact hanswers i
    · rw [hcount, ← Nat.add_assoc]
      exact hend

/-- **An expansion delivers its passes once and in order.**  It is asked anything, in any
order.  The answer to each call is the one due after the calls that move before it: the call
of number `k` among those that move shows the start string after `k` passes while `k` is at
most `n`, and then nothing any more.  After all calls, `j` of which move, with `e` for what
the expansion has become,

* `e` has counted `min j n` of `n` passes, shows the string of the last one, and is finished
  exactly when `j` has reached `n`;
* the passes left are as many as there still come, in order and however long one goes on
  taking;
* finishing shows the string after `n` passes, also for who goes on for longer;
* there is one more pass exactly while `j` is below `n`, and it counts one more, without wrapping
  around. -/
theorem delivers (r : RuleSet) (start : String) (n : UInt32) (cs : List Call) :
    let j := cs.countP Call.moves
    let e := ((begin r start n).driven cs).2
    (∀ i, ((begin r start n).driven cs).1[i]?
      = cs[i]?.map (due r start n ((cs.take i).countP Call.moves))) ∧
    (e.completed.toNat = min j n.toNat ∧ e.iterations = n ∧
      e.current = r.applyTimes (min j n.toNat) start ∧
      e.isFinished = decide (n.toNat ≤ j)) ∧
    (e.remaining = e.collect.length ∧
      e.collect = ((List.range (n.toNat - j)).map fun i => r.applyTimes (j + i + 1) start) ∧
      ∀ m, e.take m = e.collect.take m) ∧
    (e.finish = r.applyTimes n.toNat start ∧
      ∀ m, (advanceTimes (e.remaining + m) e).current = e.finish) ∧
    e.advance?.map (fun e' => e'.completed.toNat)
      = if j < n.toNat then some (e.completed.toNat + 1) else none := by
  intro j e
  have hle : min j n.toNat ≤ n.toNat := Nat.min_le_right j n.toNat
  have hstart : after r start n (min 0 n.toNat) = begin r start n := by
    rw [Nat.zero_min, after_zero]
  obtain ⟨hanswers, hend⟩ := @driven_after r start n 0 cs
  simp only [hstart, Nat.zero_add] at hanswers hend
  replace hend : e = after r start n (min j n.toNat) := hend
  have hcollect : e.collect
      = (List.range (n.toNat - j)).map fun i => r.applyTimes (j + i + 1) start := by
    rw [hend, collect_after hle]
    rcases Nat.le_total j n.toNat with h | h
    · rw [Nat.min_eq_left h]
    · rw [Nat.min_eq_right h, Nat.sub_self, Nat.sub_eq_zero_of_le h]
      rfl
  refine ⟨hanswers, ⟨?_, ?_, ?_, ?_⟩, ⟨?_, hcollect, ?_⟩, ⟨?_, ?_⟩, ?_⟩
  · rw [hend, toNat_completed_after hle]
  · rw [hend]
    rfl
  · rw [hend]
    rfl
  · rw [hend, isFinished_after hle, decide_eq_decide]
    omega
  · rw [hcollect, hend, remaining_after hle, List.length_map, List.length_range]
    omega
  · intro m
    rw [hend, take_after hle, collect_after hle, ← List.map_take, List.take_range]
  · rw [hend, finish_after hle]
  · intro m
    rw [hend, advanceTimes_remaining_after hle, finish_after hle]
    rfl
  · rw [hend, toNat_completed_after hle]
    rcases Nat.lt_or_ge j n.toNat with hlt | hge
    · rw [Nat.min_eq_left (Nat.le_of_lt hlt), advance?_after hlt, if_pos hlt, Option.map_some,
        toNat_completed_after hlt]
    · rw [Nat.min_eq_right hge, advance?_after_all, if_neg (by omega), Option.map_none]

end Expansion

end TurtleTree
