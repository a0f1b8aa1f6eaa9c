/-
TurtleTree/Proofs/Growth/Driving.lean

Ticks until a run has come to its end.

A host without a window ticks as long as a run is in flight, and nothing in that
loop counts.  It ends because every tick does a unit of work, as long as no poll
begins the run anew.  A poll compares the live parameters with those of the last
run; while nobody edits them they are the same record, and a record does not
differ from itself, whatever its measures are (`Grower.undisturbed_ticks`).

Main results: such a loop makes as many ticks as units of work are left, however
many it may make (`Grower.tickWhileRunning_eq`), and the two rounds of ticks that
a grower is driven with are as good as that loop (`Grower.tickToEnd_settle_worked`).
-/
import TurtleTree.Proofs.Growth.Begun

namespace TurtleTree

/-- `k` ticks of the same length. -/
def Command.ticking (d : Duration) (k : Nat) : List Command := List.replicate k (.tick d)

open Command (ticking)

theorem Command.countP_ticking (d : Duration) (k : Nat) :
    (ticking d k).countP Command.isTick = k := by
  simp [ticking, List.countP_replicate, Command.isTick]

namespace Grower

variable {σ : Type} [Scene σ]

theorem applyAll_ticking_succ (g : Grower σ) (d : Duration) (k : Nat) :
    g.applyAll (ticking d (k + 1)) = (g.tick d).applyAll (ticking d k) := rfl

theorem applyAll_ticking_add (g : Grower σ) (d : Duration) (j k : Nat) :
    g.applyAll (ticking d (j + k)) = (g.applyAll (ticking d j)).applyAll (ticking d k) := by
  rw [ticking, List.replicate_add, applyAll, List.foldl_append]
  rfl

/-! ### Ticks that find nothing -/

/-- The live parameters are those of the last run. -/
def Untouched (g : Grower σ) : Prop := g.parameters = g.buffered

omit [Scene σ] in
theorem Untouched.pollFinds {g : Grower σ} (h : g.Untouched) (d : Duration) :
    g.pollFinds d = false :=
  Watch.finds_of_captured (w := g.watch) h d

theorem Untouched.tick {g : Grower σ} (h : g.Untouched) (d : Duration) :
    (g.tick d).Untouched := by
  have hnext := Watch.captured_next (w := g.watch) h (r := .command (.tick d)) rfl
  rw [← watch_respond] at hnext
  exact hnext

theorem Untouched.ticks {g : Grower σ} (h : g.Untouched) (d : Duration) (k : Nat) :
    (g.applyAll (ticking d k)).Untouched := by
  induction k generalizing g with
  | zero => exact h
  | succ k ih => exact ih (h.tick d)

/-- Work does not edit. -/
theorem Untouched.settle_worked {b : Grower σ} (h : b.Untouched) (w : Nat) :
    (b.worked w).settle.Untouched := by
  have hworks := works_settle (b.worked w)
  exact (congrArg Watch.live hworks.watch).trans
    (h.trans (congrArg Watch.captured hworks.watch).symm)

/-- Ticks do not edit, so none of them begins a run. -/
theorem undisturbed_ticks {g : Grower σ} (h : g.Untouched) (d : Duration) (k : Nat) :
    g.undisturbed (ticking d k) = true := by
  induction k generalizing g with
  | zero => rfl
  | succ k ih =>
    have hfirst : g.regenerates (.command (.tick d)) = false := h.pollFinds d
    show (!g.regenerates (.command (.tick d)) && (g.tick d).undisturbed (ticking d k)) = true
    rw [hfirst, ih (h.tick d)]
    rfl

theorem parameters_tick (g : Grower σ) (d : Duration) :
    (g.tick d).parameters = g.parameters := by
  have hwatch := watch_respond g (.command (.tick d))
  exact (congrArg Watch.live hwatch).trans (Watch.live_tick g.watch d)

theorem parameters_ticks (g : Grower σ) (d : Duration) (k : Nat) :
    (g.applyAll (ticking d k)).parameters = g.parameters := by
  induction k generalizing g with
  | zero => rfl
  | succ k ih => exact (ih (g.tick d)).trans (parameters_tick g d)

/-- **Ticks are units of work**, and nothing else changes but the timer. -/
theorem exists_applyAll_ticks {b : Grower σ} (h : b.Untouched) {w : Nat}
    (hw : w ≤ b.buffered.work) (d : Duration) (k : Nat) :
    ∃ elapsed, (b.worked w).settle.applyAll (ticking d k)
      = ((b.tuned b.parameters elapsed).worked (min (w + k) b.buffered.work)).settle := by
  have hlive : (b.worked w).settle.parameters = b.parameters :=
    congrArg Watch.live (works_settle (b.worked w)).watch
  have hquiet := undisturbed_ticks (h.settle_worked w) d k
  obtain ⟨p, elapsed, hticks⟩ := applyAll_settle_worked hw hquiet
  rw [Command.countP_ticking] at hticks
  -- the live parameters are those from before the ticks
  have hsame : p = b.parameters := by
    have hafter := parameters_ticks (b.worked w).settle d k
    rw [hticks, hlive] at hafter
    rw [← hafter]
    exact (congrArg Watch.live (works_settle
      ((b.tuned p elapsed).worked (min (w + k) b.buffered.work))).watch).symm
  exact ⟨elapsed, hsame ▸ hticks⟩

/-! ### Ticks while a run is in flight -/

/-- A loop that is left when the run has ended makes all ticks up to there, or as many as it
may. -/
theorem tickWhileRunning_eq {g : Grower σ} {d : Duration} {N : Nat}
    (hrunning : ∀ k < N, (g.applyAll (ticking d k)).isRunning = true)
    (hended : (g.applyAll (ticking d N)).isRunning = false) (n ticks : Nat) :
    tickWhileRunning d n (g, ticks) = (g.applyAll (ticking d (min n N)), ticks + min n N) := by
  induction n generalizing g N ticks with
  | zero =>
    rw [Nat.zero_min]
    rfl
  | succ n ih =>
    rcases N with - | N
    · have hidle : g.isRunning = false := hended
      rw [tickWhileRunning, hidle, Nat.min_zero]
      rfl
    · have hflight : g.isRunning = true := hrunning 0 (Nat.succ_pos N)
      have hrest := ih (g := g.tick d) (fun k hk => hrunning (k + 1) (Nat.succ_lt_succ hk)) hended
        (ticks + 1)
      rw [tickWhileRunning, hflight, if_pos rfl, hrest, Nat.succ_min_succ, applyAll_ticking_succ]
      congr 1
      omega

section Worked

variable {b : Grower σ} (h : b.Untouched) {w : Nat} (hw : w ≤ b.buffered.work) (d : Duration)
include h hw

theorem isRunning_ticks (k : Nat) :
    ((b.worked w).settle.applyAll (ticking d k)).isRunning
      = decide (w + k < b.buffered.work) := by
  obtain ⟨elapsed, hticks⟩ := exists_applyAll_ticks h hw d k
  have hrun := isRunning_settle_worked (g := b.tuned b.parameters elapsed)
    (w := min (w + k) b.buffered.work) (Nat.min_le_right _ _)
  rw [hticks, hrun]
  show decide (min (w + k) b.buffered.work < b.buffered.work) = _
  rw [decide_eq_decide]
  omega

/-- **The loop** of a run makes a tick for every unit of work that is left. -/
theorem tickWhileRunning_settle_worked (n ticks : Nat) :
    tickWhileRunning d n ((b.worked w).settle, ticks)
      = ((b.worked w).settle.applyAll (ticking d (min n (b.buffered.work - w))),
          ticks + min n (b.buffered.work - w)) := by
  refine tickWhileRunning_eq ?_ ?_ n ticks
  · intro k hk
    rw [isRunning_ticks h hw]
    exact decide_eq_true (by omega)
  · rw [isRunning_ticks h hw]
    exact decide_eq_false (by omega)

/-- Ticks for the passes and then for the symbols are all the ticks of the loop. -/
theorem tickThrough_settle_worked (ticks : Nat) :
    tickThrough d ((b.worked w).settle, ticks)
      = ((b.worked w).settle.applyAll (ticking d (b.buffered.work - w)),
          ticks + (b.buffered.work - w)) := by
  have hwork : b.buffered.work = b.buffered.iterations.toNat + b.buffered.symbols.length := rfl
  have hpasses := tickWhileRunning_settle_worked h hw d (b.buffered.iterations.toNat - w) ticks
  rw [Nat.min_eq_left (by omega)] at hpasses
  obtain ⟨elapsed, hticks⟩ := exists_applyAll_ticks h hw d (b.buffered.iterations.toNat - w)
  have hread : b.buffered.iterations.toNat
      ≤ min (w + (b.buffered.iterations.toNat - w)) b.buffered.work := by omega
  have hleft := symbolsLeft_settle_worked (g := b.tuned b.parameters elapsed) hread
    (Nat.min_le_right _ _)
  have hsymbols := tickWhileRunning_settle_worked (b := b.tuned b.parameters elapsed) h
    (Nat.min_le_right (w + (b.buffered.iterations.toNat - w)) b.buffered.work) d
    (b.buffered.work - min (w + (b.buffered.iterations.toNat - w)) b.buffered.work)
    (ticks + (b.buffered.iterations.toNat - w))
  have hall : b.buffered.work - w = (b.buffered.iterations.toNat - w)
      + (b.buffered.work - min (w + (b.buffered.iterations.toNat - w)) b.buffered.work) := by
    omega
  have hdone : (b.tuned b.parameters elapsed).buffered.work = b.buffered.work := rfl
  rw [hdone, Nat.min_self, ← hticks] at hsymbols
  rw [hdone, ← hticks] at hleft
  rw [tickThrough, passesLeft_settle_worked hw, hpasses]
  simp only [hleft]
  rw [hsymbols, hall, applyAll_ticking_add, Nat.add_assoc]

/-- **Driving a run to its end** makes a tick for every unit of work that is left. -/
theorem tickToEnd_settle_worked :
    (b.worked w).settle.tickToEnd d
      = ((b.worked w).settle.applyAll (ticking d (b.buffered.work - w)),
          b.buffered.work - w) := by
  obtain ⟨elapsed, hticks⟩ := exists_applyAll_ticks h hw d (b.buffered.work - w)
  rw [Nat.add_sub_cancel' hw, Nat.min_self] at hticks
  have hagain := tickThrough_settle_worked (b := b.tuned b.parameters elapsed) h
    (Nat.le_refl b.buffered.work) d (b.buffered.work - w)
  have hdone : (b.tuned b.parameters elapsed).buffered.work - b.buffered.work = 0 :=
    Nat.sub_self _
  -- the second round finds no run in flight
  rw [hdone, ← hticks] at hagain
  rw [tickToEnd, tickThrough_settle_worked h hw d 0, Nat.zero_add, hagain]
  rfl

end Worked

end Grower

end TurtleTree
