/-
TurtleTree/Proofs/Growth/Pacing.lean

Stepwise growth comes to the same tree as instant growth.

The pacing is one flag of the parameters (`Parameters.paced`).  It decides when
the work of a run is done, and nothing about the work itself: the turtle never
looks at it (`Turtle.step_paced`).  A stepwise run is driven by ticks, and the
host may edit the live parameters between them; as long as no poll takes the
edits over, the run in flight does not see them (`applyAll_settle_worked`).

Main result: the stepwise run takes one tick for every pass and every symbol, no
fewer, and ends with the scene, the handles, the symbols, the draws and the
reports of the instant one (`stepwise_eq_instant`).  The growers are compared
from any state whatever, with a scene of any kind or without one.
-/
import TurtleTree.Proofs.Growth.Course
import TurtleTree.Scene.Store

namespace TurtleTree

/-! ### The pacing flag -/

/-- The parameters with stepwise growth on or off. -/
def Parameters.paced (p : Parameters) (stepwise : Bool) : Parameters :=
  { p with growthObserved := stepwise }

/-- The context with the pacing of its parameters set. -/
def DrawingContext.paced (c : DrawingContext) (stepwise : Bool) : DrawingContext :=
  { c with parameters := c.parameters.paced stepwise }

/-- The turtle does not look at the pacing. -/
theorem Turtle.step_paced (c : DrawingContext) (b : Bool) (t : Turtle) (x : Char) :
    t.step (c.paced b) x = t.step c x := rfl

theorem Turtle.readOne_paced (c : DrawingContext) (b : Bool) :
    readOne (c.paced b) = readOne c := by
  funext r x
  simp only [readOne, step_paced]

theorem Turtle.run_paced (c : DrawingContext) (b : Bool) (t : Turtle) (xs : List Char) :
    t.run (c.paced b) xs = t.run c xs := by
  rw [run, readOne_paced]
  rfl

/-- So the pacing has no effect on what is drawn. -/
theorem DrawingContext.made_paced (c : DrawingContext) (b : Bool) (w : Nat) :
    (c.paced b).made w = c.made w := by
  have hrun : (Turtle.start.run (c.paced b)
      (c.parameters.symbols.toList.take (w - c.parameters.iterations.toNat))).1
      = (Turtle.start.run c
        (c.parameters.symbols.toList.take (w - c.parameters.iterations.toNat))).1 := by
    rw [Turtle.run_paced]
  exact congrArg (List.filterMap id) hrun

/-- The command lets time pass. -/
def Command.isTick : Command → Bool
  | .tick _ => true
  | _ => false

namespace Grower

variable {σ : Type}

/-- The grower with the pacing of its live parameters set. -/
def paced (g : Grower σ) (stepwise : Bool) : Grower σ :=
  { g with parameters := g.parameters.paced stepwise }

/-- Two growers have the same tree, and what they draw next is the same. -/
structure SameTree (g h : Grower σ) : Prop where
  scene : g.scene = h.scene
  emitted : g.emitted = h.emitted
  expanded : g.expanded = h.expanded
  variance : g.variance = h.variance
  material : g.material = h.material
  provider : g.provider = h.provider

/-- A run in flight is not complete. -/
theorem phase_ne_complete {g : Grower σ} (h : g.isRunning = true) : g.phase ≠ .complete := by
  obtain ⟨run, hrun⟩ := Option.isSome_iff_exists.mp h
  simp only [phase, hrun]
  rcases run.stage with e | r
  · exact Phase.noConfusion
  · exact Phase.noConfusion

variable [Scene σ]

/-- None of the commands begins a run: they are edits of the live parameters, and ticks
whose polls find nothing. -/
def undisturbed (g : Grower σ) : List Command → Bool
  | [] => true
  | c :: cs => !g.regenerates (.command c) && (g.apply c).undisturbed cs

/-! ### A run driven by ticks -/

/-- A command that begins no run is one unit of work or none. -/
theorem apply_settle_worked {b : Grower σ} {w : Nat} (hw : w ≤ b.buffered.work) {c : Command}
    (h : (b.worked w).settle.regenerates (.command c) = false) :
    ∃ p d, (b.worked w).settle.apply c
      = ((b.tuned p d).worked (min (w + [c].countP Command.isTick) b.buffered.work)).settle := by
  cases c with
  | regenerate => exact absurd h Bool.noConfusion
  | toggleGrowth => exact absurd h Bool.noConfusion
  | toggleRandom => exact absurd h Bool.noConfusion
  | update p =>
    -- an edit changes the live parameters, and the run in flight has its own
    refine ⟨p, (b.worked w).settle.pollElapsed, ?_⟩
    have hcount : min (w + [Command.update p].countP Command.isTick) b.buffered.work = w :=
      Nat.min_eq_left hw
    rw [hcount, ← tuned_settle_worked]
    rfl
  | tick elapsed =>
    obtain ⟨d, hd⟩ := tick_of_not_pollFinds h
    refine ⟨(b.worked w).settle.parameters, d, ?_⟩
    show (b.worked w).settle.tick elapsed = _
    rw [hd, tuned_settle_worked]
    exact advanceTimes_settle_worked 1 hw

/-- **A run driven by ticks.**  Every tick is a unit of work, and the edits of the live
parameters do not reach the run. -/
theorem applyAll_settle_worked {b : Grower σ} {w : Nat} (hw : w ≤ b.buffered.work)
    {cs : List Command} (h : (b.worked w).settle.undisturbed cs = true) :
    ∃ p d, (b.worked w).settle.applyAll cs
      = ((b.tuned p d).worked (min (w + cs.countP Command.isTick) b.buffered.work)).settle := by
  induction cs generalizing b w with
  | nil =>
    refine ⟨b.parameters, b.pollElapsed, ?_⟩
    have hcount : min (w + ([] : List Command).countP Command.isTick) b.buffered.work = w :=
      Nat.min_eq_left hw
    rw [hcount]
    rfl
  | cons c cs ih =>
    rw [undisturbed, Bool.and_eq_true, Bool.not_eq_true'] at h
    obtain ⟨hc, hcs⟩ := h
    obtain ⟨p, d, hstep⟩ := apply_settle_worked hw hc
    rw [hstep] at hcs
    obtain ⟨p', d', hrest⟩ := ih (b := b.tuned p d) (Nat.min_le_right _ _) hcs
    refine ⟨p', d', ?_⟩
    have hcount : min (min (w + [c].countP Command.isTick) b.buffered.work
          + cs.countP Command.isTick) b.buffered.work
        = min (w + (c :: cs).countP Command.isTick) b.buffered.work := by
      rw [List.countP_cons, List.countP_cons, List.countP_nil]
      omega
    show ((b.worked w).settle.apply c).applyAll cs = _
    rw [hstep, ← hcount]
    exact hrest

/-! ### The two pacings compared -/

/-- The pacing shows in the parameters and in the report of the new run, and nowhere else. -/
theorem planted_paced (g : Grower σ) (b : Bool) :
    (g.paced b).planted = { g.planted with
      parameters := g.parameters.paced b
      buffered := g.parameters.paced b
      outbox := g.outbox ++ (g.stopReport
        ++ [(g.paced b).startReport]).toArray } := by
  simp [planted, report, cleanup, discardEmissions_eq, stopRun_eq, paced, Parameters.paced,
    stopReport, startReport]

/-- What the work of a run leaves behind does not depend on its pacing. -/
theorem context_planted_paced (g : Grower σ) (b : Bool) :
    (g.paced b).planted.context = g.planted.context.paced b := by
  rw [planted_paced]
  simp [context, DrawingContext.paced]

theorem workReports_planted_paced (g : Grower σ) (b : Bool) (w : Nat) :
    (g.paced b).planted.workReports w = g.planted.workReports w := by
  rw [workReports, context_planted_paced, DrawingContext.made_paced, planted_paced, workReports,
    planted_buffered]
  rfl

/-- What all the work of a new run reports, its end included. -/
def treeReports (g : Grower σ) : List Event :=
  g.workReports g.buffered.work ++ [.generationCompleted
    ((g.context.made g.buffered.work).countP Emission.isSegment)
    ((g.context.made g.buffered.work).countP Emission.isLeaf)]

/-- After all its work a run has left its pacing in the parameters and in the report of its
start, and nowhere else. -/
theorem settle_worked_paced (g : Grower σ) (b : Bool) (p : Parameters) (d : Duration) :
    (((g.paced b).planted.tuned p d).worked g.parameters.work).settle
      = { g.planted.worked g.parameters.work with
          parameters := p
          buffered := g.parameters.paced b
          run := none
          lastSymbols := some g.parameters.symbols
          completed := true
          pollElapsed := d
          outbox := g.outbox ++ (g.stopReport ++ (g.paced b).startReport
            :: g.planted.treeReports).toArray } := by
  have hwork : ((g.paced b).planted.tuned p d).buffered.work = g.parameters.work := by
    rw [planted_paced]
    rfl
  have hmade : ((g.paced b).planted.tuned p d).context.made g.parameters.work
      = g.planted.context.made g.parameters.work := by
    show (g.paced b).planted.context.made _ = _
    rw [context_planted_paced, DrawingContext.made_paced]
  have hreports : ((g.paced b).planted.tuned p d).workReports g.parameters.work
      = g.planted.workReports g.parameters.work := workReports_planted_paced g b _
  have hend := settle_worked_all ((g.paced b).planted.tuned p d)
  rw [hwork, hmade] at hend
  rw [hend]
  simp only [worked, hmade, hreports]
  simp [planted_paced, tuned, treeReports, Parameters.symbols, Parameters.paced]

/-- **Stepwise growth is instant growth**, spread over one tick for every pass and every
symbol.  From any state and with a scene of any kind or none, the instant run is complete
at once.  The stepwise run is in flight for every smaller number of ticks, whatever their
lengths and whatever edits of the live parameters come in between, and then has the same
tree, the same draws and the same reports but for the pacing announced. -/
theorem stepwise_eq_instant (g : Grower σ) (cs : List Command)
    (h : (g.paced true).regenerate.undisturbed cs = true) :
    (g.paced false).regenerate.phase = .complete ∧
    (cs.countP Command.isTick < g.parameters.iterations.toNat + g.parameters.symbols.length →
      ((g.paced true).regenerate.applyAll cs).isRunning = true ∧
      ((g.paced true).regenerate.applyAll cs).phase ≠ .complete) ∧
    (g.parameters.iterations.toNat + g.parameters.symbols.length ≤ cs.countP Command.isTick →
      ((g.paced true).regenerate.applyAll cs).phase = .complete ∧
      ((g.paced true).regenerate.applyAll cs).SameTree (g.paced false).regenerate ∧
      ∃ before after,
        ((g.paced true).regenerate.applyAll cs).outbox.toList
          = g.outbox.toList ++ (before ++ .regenerationStarted g.parameters.ruleSet
            g.parameters.iterations .stepwise :: after) ∧
        (g.paced false).regenerate.outbox.toList
          = g.outbox.toList ++ (before ++ .regenerationStarted g.parameters.ruleSet
            g.parameters.iterations .instant :: after)) := by
  have hslow : (g.paced true).regenerate = ((g.paced true).planted.worked 0).settle :=
    regenerate_of_stepwise rfl
  have hfast : (g.paced false).regenerate
      = (((g.paced false).planted.tuned (g.paced false).planted.parameters
        (g.paced false).planted.pollElapsed).worked g.parameters.work).settle :=
    regenerate_of_instant rfl
  have hwork : (g.paced true).planted.buffered.work = g.parameters.work := by
    rw [planted_buffered]
    rfl
  -- all that the commands have changed besides are the live parameters and the poll timer
  rw [hslow] at h
  obtain ⟨p, d, hrun⟩ := applyAll_settle_worked (Nat.zero_le _) h
  rw [Nat.zero_add, hwork] at hrun
  rw [hslow, hrun, hfast, ← Parameters.work]
  refine ⟨?_, ?_, ?_⟩
  · rw [settle_worked_paced]
    rfl
  · intro hticks
    have hleft : cs.countP Command.isTick < (g.paced true).planted.buffered.work := by
      rw [hwork]
      exact hticks
    have hrunning := isRunning_settle_worked (g := (g.paced true).planted.tuned p d)
      (Nat.le_of_lt hleft)
    rw [Nat.min_eq_left (Nat.le_of_lt hticks)]
    have hflight := hrunning.trans (decide_eq_true hleft)
    exact ⟨hflight, phase_ne_complete hflight⟩
  · intro hticks
    rw [Nat.min_eq_right hticks, settle_worked_paced, settle_worked_paced]
    refine ⟨rfl, ⟨rfl, rfl, rfl, rfl, rfl, rfl⟩, g.stopReport, g.planted.treeReports, ?_, ?_⟩
    · exact Array.toList_append
    · exact Array.toList_append

/-- A tree of one pass grows by 21 ticks, and an edit in between is not seen. -/
theorem sameTree_edited :
    let g := begin (GrowthConfig.ofSeed 7) { Parameters.standard with iterations := 1 }
      (some SceneStore.empty)
    let ticks := fun n => List.replicate n (Command.tick (Duration.ofMilliseconds 3))
    let commands := ticks 9 ++ .update Parameters.standard :: ticks 12
    (g.paced true).regenerate.undisturbed commands = true ∧
      ((g.paced true).regenerate.applyAll commands).phase = .complete ∧
      ((g.paced true).regenerate.applyAll commands).SameTree (g.paced false).regenerate := by
  intro g ticks commands
  have hquiet : (g.paced true).regenerate.undisturbed commands = true := by decide +kernel
  have hticks : g.parameters.iterations.toNat + g.parameters.symbols.length
      ≤ commands.countP Command.isTick := by decide +kernel
  obtain ⟨-, -, hend⟩ := stepwise_eq_instant g commands hquiet
  obtain ⟨hcomplete, htree, -⟩ := hend hticks
  exact ⟨hquiet, hcomplete, htree⟩

end Grower

end TurtleTree
