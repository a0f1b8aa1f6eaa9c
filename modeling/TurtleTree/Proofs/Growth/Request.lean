/-
TurtleTree/Proofs/Growth/Request.lean

What a host asks of a grower, taken apart into a few moves.

A host sends commands and may stop the run in flight (`Request`).  However
different the requests are, only three things can come of one
(`respond_cases`):

* the live parameters and the time since the last poll are set, and units of
  work are done (`tuned`, `advanceTimes`);
* a new run is begun, from parameters, a table and a provider that may have
  been set before, and units of work are done (`reset`, `noticed`, `sown`);
* the run in flight is stopped and its tree removed (`cancel`).

Laws that hold of everything a host can do are proved along these cases.
-/
import TurtleTree.Growth.Grower
import TurtleTree.Proofs.Scene.Batch

namespace TurtleTree

/-- What a host asks: to carry out a command, or to stop the run in flight. -/
inductive Request where
  | command (c : Command)
  | cancel
deriving DecidableEq

namespace Grower

variable {σ : Type}

/-! ### Kinds of requests -/

/-- A tick of this length makes a poll, and the poll finds edited parameters. -/
def pollFinds (g : Grower σ) (elapsed : Duration) : Bool :=
  decide (g.config.pollInterval ≤ g.pollElapsed + elapsed)
    && g.parameters.differsFrom g.buffered

/-- The request begins a new run. -/
def regenerates (g : Grower σ) : Request → Bool
  | .command .regenerate => true
  | .command .toggleGrowth => true
  | .command .toggleRandom => true
  | .command (.update _) => false
  | .command (.tick elapsed) => g.pollFinds elapsed
  | .cancel => false

/-- The request stops a run without beginning another. -/
def stops (g : Grower σ) : Request → Bool
  | .command _ => false
  | .cancel => g.isRunning

/-! ### Moves -/

/-- The grower with other live parameters and another time since the last poll. -/
def tuned (g : Grower σ) (p : Parameters) (d : Duration) : Grower σ :=
  { g with parameters := p, pollElapsed := d }

/-- The grower with another table and another provider, besides. -/
def reset (g : Grower σ) (p : Parameters) (v : VarianceTable) (q : VarianceProvider)
    (d : Duration) : Grower σ :=
  { g with parameters := p, variance := v, provider := q, pollElapsed := d }

/-- The grower after a poll that reports what it has found, or without a poll. -/
def noticed (g : Grower σ) (byPoll : Bool) : Grower σ :=
  if byPoll then g.report .parametersChanged else g

/-- What stopping the run in flight reports. -/
def stopReport (g : Grower σ) : List Event :=
  match g.run with
  | none => []
  | some run => [.runCancelled (run.segments + run.leaves)]

/-- What beginning a run of the live parameters reports. -/
def startReport (g : Grower σ) : Event :=
  .regenerationStarted g.parameters.ruleSet g.parameters.iterations g.parameters.growthMode

/-! ### A poll that reports -/

section Noticed

variable (g : Grower σ) (byPoll : Bool)

theorem noticed_outbox :
    (g.noticed byPoll).outbox.toList
      = g.outbox.toList ++ if byPoll then [.parametersChanged] else [] := by
  cases byPoll
  · exact (List.append_nil _).symm
  · exact Array.toList_push

@[simp] theorem noticed_scene : (g.noticed byPoll).scene = g.scene := by
  cases byPoll <;> rfl

@[simp] theorem noticed_emitted : (g.noticed byPoll).emitted = g.emitted := by
  cases byPoll <;> rfl

@[simp] theorem noticed_parameters : (g.noticed byPoll).parameters = g.parameters := by
  cases byPoll <;> rfl

@[simp] theorem noticed_stopReport : (g.noticed byPoll).stopReport = g.stopReport := by
  cases byPoll <;> rfl

end Noticed

/-! ### Stopping -/

theorem stopRun_eq (g : Grower σ) :
    g.stopRun = { g with run := none, outbox := g.outbox ++ g.stopReport.toArray } := by
  obtain ⟨_, _, _, _, _, _, _, _, run, _, _, _, _⟩ := g
  rcases run with - | run
  · simp [stopRun, stopReport]
  · simp [stopRun, stopReport, report]

variable [Scene σ]

/-- The grower with the old tree removed and a run of the live parameters announced. -/
def planted (g : Grower σ) : Grower σ :=
  let g := { g with buffered := g.parameters }.stopRun.cleanup
  g.report g.startReport

/-- The grower with a run of the live parameters begun, before its first unit of work. -/
def sown (g : Grower σ) : Grower σ :=
  { g.planted with run := some (Run.begin g.planted.parameters) }.settle

/-- Do what a host asks. -/
def respond (g : Grower σ) : Request → Grower σ
  | .command c => g.apply c
  | .cancel => g.cancel

/-- Do all a host asks, in order. -/
def respondAll (g : Grower σ) (rs : List Request) : Grower σ := rs.foldl respond g

/-- Along requests, how many of them are of a kind that is told from the grower they meet. -/
def tally (kind : Grower σ → Request → Bool) (g : Grower σ) : List Request → Nat
  | [] => 0
  | r :: rs => (kind g r).toNat + (g.respond r).tally kind rs

/-! ### Writing to the scene -/

theorem discardEmissions_eq (g : Grower σ) :
    g.discardEmissions = { g with
      scene := g.scene.map fun s => Scene.clear (Scene.hideAll s g.emitted.toList)
      emitted := #[] } := by
  obtain ⟨_, _, _, scene, _, _, _, _, _, _, _, _, _⟩ := g
  rcases scene with - | s
  · rfl
  · simp only [discardEmissions, Option.map_some, Scene.hideAll, Array.foldl_toList]

/-- An emission is taken in by the scene, if there is one, and reported by its name. -/
theorem emit_eq (g : Grower σ) (e : Emission) :
    g.emit e = { g with
      scene := Scene.with? g.scene [e]
      emitted := g.emitted ++ (Scene.names? g.scene [e]).toArray
      outbox := g.outbox ++ ((Scene.names? g.scene [e]).map Event.emitted).toArray } := by
  obtain ⟨_, _, _, scene, _, _, _, _, _, _, _, _, _⟩ := g
  rcases scene with - | s
  · simp [emit, Scene.with?, Scene.names?]
  · simp [emit, Scene.with?, Scene.names?, Scene.addAll]

/-! ### Removing a tree -/

theorem stopped_scene (g : Grower σ) :
    g.stopRun.discardEmissions.scene
      = g.scene.map fun s => Scene.clear (Scene.hideAll s g.emitted.toList) := by
  simp only [discardEmissions_eq, stopRun_eq]

theorem stopped_outbox (g : Grower σ) :
    g.stopRun.discardEmissions.outbox.toList = g.outbox.toList ++ g.stopReport := by
  simp [discardEmissions_eq, stopRun_eq]

@[simp] theorem stopped_run (g : Grower σ) : g.stopRun.discardEmissions.run = none := by
  simp only [discardEmissions_eq, stopRun_eq]

@[simp] theorem stopped_emitted (g : Grower σ) : g.stopRun.discardEmissions.emitted = #[] := by
  simp only [discardEmissions_eq, stopRun_eq]

@[simp] theorem stopped_lastSymbols (g : Grower σ) :
    g.stopRun.discardEmissions.lastSymbols = g.lastSymbols := by
  simp only [discardEmissions_eq, stopRun_eq]

@[simp] theorem stopped_completed (g : Grower σ) :
    g.stopRun.discardEmissions.completed = g.completed := by
  simp only [discardEmissions_eq, stopRun_eq]

theorem planted_scene (g : Grower σ) :
    g.planted.scene = g.scene.map fun s => Scene.clear (Scene.hideAll s g.emitted.toList) := by
  simp only [planted, report, cleanup, discardEmissions_eq, stopRun_eq]

/-- Whatever was set before, a new run removes the tree that is there. -/
theorem planted_reset_scene (g : Grower σ) (p : Parameters) (v : VarianceTable)
    (q : VarianceProvider) (d : Duration) (byPoll : Bool) :
    ((g.reset p v q d).noticed byPoll).planted.scene
      = g.scene.map fun s => Scene.clear (Scene.hideAll s g.emitted.toList) := by
  rw [planted_scene, noticed_scene, noticed_emitted]
  rfl

theorem planted_outbox (g : Grower σ) :
    g.planted.outbox.toList = g.outbox.toList ++ g.stopReport ++ [g.startReport] := by
  simp [planted, report, cleanup, discardEmissions_eq, stopRun_eq, stopReport, startReport]

@[simp] theorem planted_parameters (g : Grower σ) : g.planted.parameters = g.parameters := by
  simp only [planted, report, cleanup, discardEmissions_eq, stopRun_eq]

@[simp] theorem planted_buffered (g : Grower σ) : g.planted.buffered = g.parameters := by
  simp only [planted, report, cleanup, discardEmissions_eq, stopRun_eq]

@[simp] theorem planted_emitted (g : Grower σ) : g.planted.emitted = #[] := by
  simp only [planted, report, cleanup, discardEmissions_eq, stopRun_eq]

/-! ### Units of work -/

theorem advanceTimes_add (m n : Nat) (g : Grower σ) :
    advanceTimes (m + n) g = advanceTimes n (advanceTimes m g) := by
  induction m generalizing g with
  | zero => rw [Nat.zero_add]; rfl
  | succ m ih => rw [Nat.succ_add]; exact ih g.advance

theorem advanceTimes_succ (n : Nat) (g : Grower σ) :
    advanceTimes (n + 1) g = (advanceTimes n g).advance := advanceTimes_add n 1 g

theorem regenerate_eq (g : Grower σ) :
    g.regenerate = match g.parameters.growthMode with
      | .stepwise => g.sown
      | .instant => g.sown.advanceToEnd := by
  rw [← g.planted_parameters]
  rfl

/-- Beginning a run is followed by some number of units of work: none, or all. -/
theorem exists_regenerate_eq (g : Grower σ) : ∃ n, g.regenerate = advanceTimes n g.sown := by
  rw [regenerate_eq]
  rcases g.parameters.growthMode with - | -
  · exact ⟨_, (advanceTimes_add _ _ g.sown).symm⟩
  · exact ⟨0, rfl⟩

/-! ### What a request comes to -/

theorem tick_of_pollFinds {g : Grower σ} {elapsed : Duration} (h : g.pollFinds elapsed = true) :
    g.tick elapsed = ((g.tuned g.parameters Duration.zero).noticed true).regenerate.advance := by
  obtain ⟨hdue, hedit⟩ := Bool.and_eq_true_iff.mp h
  simp only [tick, poll, of_decide_eq_true hdue, hedit, if_true]
  rfl

theorem tick_of_not_pollFinds {g : Grower σ} {elapsed : Duration}
    (h : g.pollFinds elapsed = false) :
    ∃ d, g.tick elapsed = (g.tuned g.parameters d).advance := by
  by_cases hdue : g.config.pollInterval ≤ g.pollElapsed + elapsed
  · have hedit : g.parameters.differsFrom g.buffered = false := by
      simpa [pollFinds, hdue] using h
    refine ⟨Duration.zero, ?_⟩
    simp only [tick, poll, hdue, hedit, if_true, Bool.false_eq_true, if_false]
    rfl
  · refine ⟨g.pollElapsed + elapsed, ?_⟩
    simp only [tick, poll, hdue, if_false]
    rfl

/-- **The moves of a request.**  It lets the run in flight go on, or begins a new one, or
stops it. -/
theorem respond_cases (g : Grower σ) (r : Request) :
    (g.regenerates r = false ∧ g.stops r = false ∧
      ∃ p d n, g.respond r = advanceTimes n (g.tuned p d)) ∨
    (g.regenerates r = true ∧ g.stops r = false ∧
      ∃ p v q d byPoll n,
        g.respond r = advanceTimes n ((g.reset p v q d).noticed byPoll).sown) ∨
    (g.regenerates r = false ∧ g.stops r = true ∧
      g.respond r = g.stopRun.discardEmissions) := by
  cases r with
  | cancel =>
    rcases hrun : g.isRunning with - | -
    · -- without a run in flight there is nothing to stop
      refine Or.inl ⟨rfl, hrun, g.parameters, g.pollElapsed, 0, ?_⟩
      simp [respond, cancel, hrun, advanceTimes, tuned]
    · refine Or.inr (Or.inr ⟨rfl, hrun, ?_⟩)
      simp [respond, cancel, hrun]
  | command c =>
    cases c with
    | update p => exact Or.inl ⟨rfl, rfl, p, g.pollElapsed, 0, rfl⟩
    | regenerate =>
      obtain ⟨n, hn⟩ := exists_regenerate_eq g
      exact Or.inr (Or.inl ⟨rfl, rfl, g.parameters, g.variance, g.provider, g.pollElapsed,
        false, n, hn⟩)
    | toggleGrowth =>
      obtain ⟨n, hn⟩ := exists_regenerate_eq
        { g with parameters := { g.parameters with growthObserved := !g.parameters.growthObserved } }
      exact Or.inr (Or.inl ⟨rfl, rfl, _, g.variance, g.provider, g.pollElapsed, false, n, hn⟩)
    | toggleRandom =>
      obtain ⟨n, hn⟩ := exists_regenerate_eq
        { g with
          parameters := withRandomSwitched g.parameters
          variance := g.provider.redraw.1
          provider := g.provider.redraw.2 }
      exact Or.inr (Or.inl ⟨rfl, rfl, _, _, _, g.pollElapsed, false, n, hn⟩)
    | tick elapsed =>
      rcases hfind : g.pollFinds elapsed with - | -
      · obtain ⟨d, hd⟩ := tick_of_not_pollFinds hfind
        exact Or.inl ⟨hfind, rfl, g.parameters, d, 1, hd⟩
      · obtain ⟨n, hn⟩ := exists_regenerate_eq ((g.tuned g.parameters Duration.zero).noticed true)
        refine Or.inr (Or.inl ⟨hfind, rfl, g.parameters, g.variance, g.provider, Duration.zero,
          true, n + 1, ?_⟩)
        -- the tick that began the run does one more unit of its work
        show g.tick elapsed = _
        rw [tick_of_pollFinds hfind, hn, advanceTimes_succ]
        rfl

end Grower

end TurtleTree
