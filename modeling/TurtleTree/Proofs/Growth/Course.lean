/-
TurtleTree/Proofs/Growth/Course.lean

Where a host can lead a grower.

Whatever a host asks, a grower is either at rest or has done some units of work
of a run (`Course`).  A law about all growers that a host can reach therefore
needs a predicate for growers at rest and one for growers before the first unit
of work, and four facts about them: both survive a change of the live
parameters, a new run makes the second from either, and stopping a run makes
the first from the second.  Nothing has to be said about units of work, because
their effect is known in closed form.

Main result: every sequence of requests keeps to the course (`Course.respondAll`).
The predicates may depend on how many runs were begun and stopped on the way.
-/
import TurtleTree.Proofs.Growth.Work

namespace TurtleTree

namespace Grower

variable {σ : Type} [Scene σ]

/-- A grower at rest, of which `Rest` holds, or one that has done some units of work of a
run that was begun by a grower of which `Base` holds. -/
inductive Course (Rest Base : Grower σ → Prop) : Grower σ → Prop
  | rest {g : Grower σ} : g.run = none → Rest g → Course Rest Base g
  | run {g : Grower σ} {w : Nat} :
      Base g → w ≤ g.buffered.work → Course Rest Base (g.worked w).settle

omit [Scene σ] in
/-- Other live parameters do not change what ends a run. -/
theorem settle_tuned (g : Grower σ) (p : Parameters) (d : Duration) :
    (g.tuned p d).settle = g.settle.tuned p d := by
  obtain ⟨_, _, _, _, _, _, _, _, run, _, _, _, _⟩ := g
  rcases run with - | ⟨_, stage, _, _⟩
  · rfl
  · rcases stage with e | r
    · rfl
    · rcases h : r.isExhausted with - | - <;> simp [settle, tuned, h, report]

/-- Other live parameters do not change the work of the run in flight. -/
theorem tuned_settle_worked (g : Grower σ) (w : Nat) (p : Parameters) (d : Duration) :
    (g.worked w).settle.tuned p d = ((g.tuned p d).worked w).settle :=
  (settle_tuned (g.worked w) p d).symm

namespace Course

variable {Rest Base : Grower σ → Prop}

/-- Units of work stay within the course of the run. -/
theorem advanceTimes {g : Grower σ} (h : Course Rest Base g) (n : Nat) :
    Course Rest Base (Grower.advanceTimes n g) := by
  cases h with
  | rest hrun hrest =>
    rw [advanceTimes_of_idle hrun]
    exact .rest hrun hrest
  | run hbase hw =>
    rw [advanceTimes_settle_worked n hw]
    exact .run hbase (Nat.min_le_right _ _)

theorem tuned (hrest : ∀ g p d, Rest g → Rest (g.tuned p d))
    (hbase : ∀ g p d, Base g → Base (g.tuned p d)) {g : Grower σ} (h : Course Rest Base g)
    (p : Parameters) (d : Duration) : Course Rest Base (g.tuned p d) := by
  cases h with
  | rest hrun hr => exact .rest hrun (hrest _ p d hr)
  | run hb hw =>
    rw [tuned_settle_worked]
    exact .run (hbase _ p d hb) hw

section Requests

-- the two numbers count the runs begun and those stopped without another
variable {R B : Nat → Nat → Grower σ → Prop}

/-- **The course of a grower**: one request keeps to it. -/
theorem respond (hrest : ∀ m k g p d, R m k g → R m k (g.tuned p d))
    (hbase : ∀ m k g p d, B m k g → B m k (g.tuned p d))
    (hplant : ∀ m k g p v q d byPoll, Course (R m k) (B m k) g →
      B (m + 1) k ((g.reset p v q d).noticed byPoll).planted)
    (hstop : ∀ m k g w, B m k g → w < g.buffered.work →
      R m (k + 1) (g.worked w).stopRun.discardEmissions)
    {m k : Nat} {g : Grower σ} (h : Course (R m k) (B m k) g) (r : Request) :
    Course (R (m + (g.regenerates r).toNat) (k + (g.stops r).toNat))
      (B (m + (g.regenerates r).toNat) (k + (g.stops r).toNat)) (g.respond r) := by
  obtain ⟨hreg, hstops, p, d, n, hr⟩ | ⟨hreg, hstops, p, v, q, d, byPoll, n, hr⟩ |
    ⟨hreg, hstops, hr⟩ := g.respond_cases r
  · rw [hreg, hstops, hr]
    exact (h.tuned (hrest m k) (hbase m k) p d).advanceTimes n
  · rw [hreg, hstops, hr, sown_eq]
    exact (run (hplant m k g p v q d byPoll h) (Nat.zero_le _)).advanceTimes n
  · rw [hreg, hr]
    -- a run was in flight, so a unit of its work is left
    have hrunning : g.isRunning = true := by
      cases r with
      | command c => exact absurd hstops Bool.false_ne_true
      | cancel => exact hstops
    rw [hstops]
    cases h with
    | rest hrun _ => simp [isRunning, hrun] at hrunning
    | run hb hw =>
      rw [isRunning_settle_worked hw, decide_eq_true_eq] at hrunning
      rw [settle_worked_of_lt hrunning]
      exact .rest (stopped_run _) (hstop m k _ _ hb hrunning)

/-- **The course of a grower**: any sequence of requests keeps to it. -/
theorem respondAll (hrest : ∀ m k g p d, R m k g → R m k (g.tuned p d))
    (hbase : ∀ m k g p d, B m k g → B m k (g.tuned p d))
    (hplant : ∀ m k g p v q d byPoll, Course (R m k) (B m k) g →
      B (m + 1) k ((g.reset p v q d).noticed byPoll).planted)
    (hstop : ∀ m k g w, B m k g → w < g.buffered.work →
      R m (k + 1) (g.worked w).stopRun.discardEmissions)
    {m k : Nat} {g : Grower σ} (h : Course (R m k) (B m k) g) (rs : List Request) :
    Course (R (m + g.tally regenerates rs) (k + g.tally stops rs))
      (B (m + g.tally regenerates rs) (k + g.tally stops rs)) (g.respondAll rs) := by
  induction rs generalizing m k g with
  | nil => exact h
  | cons r rs ih =>
    rw [tally, tally, ← Nat.add_assoc, ← Nat.add_assoc]
    exact ih (h.respond hrest hbase hplant hstop r)

end Requests

end Course

end Grower

end TurtleTree
