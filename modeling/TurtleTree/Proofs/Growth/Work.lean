/-
TurtleTree/Proofs/Growth/Work.lean

The state of a grower after any number of units of work, in closed form.

A run makes its passes one by one and then reads its symbols one by one, so the
number of units done tells all: the stage of the run (`Run.after`), what was
drawn (`DrawingContext.made`), and what was reported (`Grower.workReports`).
`Grower.worked` puts these into a grower; once the passes are made it is a grower that
reads (`Grower.worked_of_le`).

Main results: a unit of work takes `worked w` to `worked (w + 1)`
(`advance_worked`), the run is in flight exactly while units are left
(`isRunning_settle_worked`), and the last unit ends it (`settle_worked_all`).
The loops of the grower are thereby gone from every statement about it.
-/
import TurtleTree.Proofs.Grammar.Passes
import TurtleTree.Proofs.Growth.Reading

namespace TurtleTree

/-! ### The plan of a run -/

namespace Parameters

/-- The symbols after `k` passes. -/
def symbolsAfter (p : Parameters) (k : Nat) : String :=
  (RuleSet.select p.ruleSet).applyTimes k (RuleSet.select p.ruleSet).start

/-- The symbols of the tree: the full expansion of the rule set by the passes asked for. -/
def symbols (p : Parameters) : String :=
  (Expansion.begin (RuleSet.select p.ruleSet) (RuleSet.select p.ruleSet).start
    p.iterations).finish

theorem symbols_eq (p : Parameters) : p.symbols = p.symbolsAfter p.iterations.toNat :=
  Expansion.finish_begin _ _ _

/-- Number of units of work: every pass and every symbol is one. -/
def work (p : Parameters) : Nat := p.iterations.toNat + p.symbols.length

/-- The reports of the first `k` passes. -/
def passReports (p : Parameters) (k : Nat) : List Event :=
  (List.range k).map fun j =>
    .grammarExpanded (UInt32.ofNat (j + 1)) (p.symbolsAfter (j + 1)).utf8ByteSize

@[simp] theorem passReports_zero (p : Parameters) : p.passReports 0 = [] := rfl

theorem passReports_succ (p : Parameters) (k : Nat) :
    p.passReports (k + 1) = p.passReports k
      ++ [.grammarExpanded (UInt32.ofNat (k + 1)) (p.symbolsAfter (k + 1)).utf8ByteSize] := by
  rw [passReports, List.range_succ, List.map_append]
  rfl

end Parameters

/-- What the first `w` units of work leave behind. -/
def DrawingContext.made (c : DrawingContext) (w : Nat) : List Emission :=
  c.drawn c.parameters.symbols (w - c.parameters.iterations.toNat)

/-- The stage of a run after `w` units of work. -/
def Stage.after (c : DrawingContext) (w : Nat) : Stage :=
  if w < c.parameters.iterations.toNat then
    .expanding (Expansion.after (RuleSet.select c.parameters.ruleSet)
      (RuleSet.select c.parameters.ruleSet).start c.parameters.iterations w)
  else .interpreting
    (Reading.after c c.parameters.symbols (w - c.parameters.iterations.toNat))

/-- The run after `w` units of work. -/
def Run.after (c : DrawingContext) (w : Nat) : Run where
  parameters := c.parameters
  stage := Stage.after c w
  segments := (c.made w).countP Emission.isSegment
  leaves := (c.made w).countP Emission.isLeaf

section Stages

variable {c : DrawingContext} {w : Nat}

theorem Stage.after_of_lt (h : w < c.parameters.iterations.toNat) :
    Stage.after c w = .expanding (Expansion.after (RuleSet.select c.parameters.ruleSet)
      (RuleSet.select c.parameters.ruleSet).start c.parameters.iterations w) := if_pos h

theorem Stage.after_of_le (h : c.parameters.iterations.toNat ≤ w) :
    Stage.after c w = .interpreting
      (Reading.after c c.parameters.symbols (w - c.parameters.iterations.toNat)) :=
  if_neg (by omega)

/-- While passes are made nothing is drawn. -/
theorem DrawingContext.made_of_le (h : w ≤ c.parameters.iterations.toNat) : c.made w = [] := by
  rw [made, Nat.sub_eq_zero_of_le h, drawn_zero]

/-- An expansion with its passes made turns into a reading at the first symbol. -/
theorem Stage.ofExpansion_after (h : w ≤ c.parameters.iterations.toNat) :
    Stage.ofExpansion (Expansion.after (RuleSet.select c.parameters.ruleSet)
      (RuleSet.select c.parameters.ruleSet).start c.parameters.iterations w)
      = Stage.after c w := by
  rw [Stage.ofExpansion, Expansion.isFinished_after h]
  rcases Nat.lt_or_eq_of_le h with hlt | heq
  · rw [Stage.after_of_lt hlt, if_neg]
    simp only [decide_eq_true_eq]
    omega
  · rw [Stage.after_of_le (by omega), if_pos (by simp [heq]), heq, Nat.sub_self,
      Reading.after_zero, Parameters.symbols_eq]
    rfl

theorem Run.after_zero (c : DrawingContext) : Run.after c 0 = Run.begin c.parameters := by
  have hstage : Stage.after c 0 = (Run.begin c.parameters).stage :=
    (Stage.ofExpansion_after (Nat.zero_le _)).symm
  rw [Run.after, hstage, DrawingContext.made_of_le (Nat.zero_le _)]
  rfl

end Stages

/-! ### Growers at work -/

namespace Grower

variable {σ : Type}

/-- What decides the effect of the symbols of the run in flight. -/
def context (g : Grower σ) : DrawingContext where
  parameters := g.buffered
  variance := g.variance
  material := g.material
  emitBranches := g.config.emitBranches
  emitLeaves := g.config.emitLeaves

variable [Scene σ]

/-- What `w` units of work of a new run report. -/
def workReports (g : Grower σ) (w : Nat) : List Event :=
  g.buffered.passReports (min w g.buffered.iterations.toNat)
    ++ (Scene.names? g.scene (g.context.made w)).map Event.emitted

/-- The grower after `w` units of work of a new run. -/
def worked (g : Grower σ) (w : Nat) : Grower σ :=
  { g with
    run := some (Run.after g.context w)
    scene := Scene.with? g.scene (g.context.made w)
    emitted := g.emitted ++ (Scene.names? g.scene (g.context.made w)).toArray
    outbox := g.outbox ++ (g.workReports w).toArray }

theorem worked_zero (g : Grower σ) :
    g.worked 0 = { g with run := some (Run.begin g.buffered) } := by
  have hmade : g.context.made 0 = [] := DrawingContext.made_of_le (Nat.zero_le _)
  rw [worked, Run.after_zero, workReports, hmade]
  simp [context]

theorem worked_scene {g : Grower σ} {s : σ} (h : g.scene = some s) (w : Nat) :
    (g.worked w).scene = some (Scene.addAll s (g.context.made w)).2 := by
  rw [worked, h]
  rfl

theorem worked_emitted {g : Grower σ} {s : σ} (h : g.scene = some s) (w : Nat) :
    (g.worked w).emitted = g.emitted ++ (Scene.addAll s (g.context.made w)).1.toArray := by
  rw [worked, h]
  rfl

theorem stopped_worked_scene {g : Grower σ} {s : σ} (h : g.scene = some s) (w : Nat) :
    (g.worked w).stopRun.discardEmissions.scene
      = some (Scene.clear (Scene.hideAll (Scene.addAll s (g.context.made w)).2
          (g.worked w).emitted.toList)) := by
  rw [stopped_scene, worked_scene h, Option.map_some]

/-! ### A unit of work -/

/-- The grower with all passes of its run reported. -/
def passed (g : Grower σ) : Grower σ :=
  { g with outbox :=
      g.outbox ++ (g.buffered.passReports g.buffered.iterations.toNat).toArray }

/-- Once its passes are made, a run reads the symbols of the tree. -/
theorem worked_of_le {g : Grower σ} {w : Nat} (hw : g.buffered.iterations.toNat ≤ w) :
    g.worked w = g.passed.reading g.buffered g.buffered.symbols
      (w - g.buffered.iterations.toNat) := by
  have hstage := Stage.after_of_le (c := g.context) hw
  simp only [worked, workReports, Nat.min_eq_right hw, Run.after, hstage, ← List.append_toArray,
    ← Array.append_assoc]
  rfl

/-- A run with units left goes on. -/
theorem settle_worked_of_lt {g : Grower σ} {w : Nat} (h : w < g.buffered.work) :
    (g.worked w).settle = g.worked w := by
  rcases Nat.lt_or_ge w g.buffered.iterations.toNat with hw | hw
  · simp only [settle, worked, Run.after, Stage.after_of_lt (c := g.context) hw]
  · rw [Parameters.work] at h
    rw [worked_of_le hw]
    exact settle_reading_of_lt (by omega)

/-- The last unit of work ends the run. -/
theorem settle_worked_all (g : Grower σ) :
    (g.worked g.buffered.work).settle
      = { g.worked g.buffered.work with
          run := none
          lastSymbols := some g.buffered.symbols
          completed := true
          outbox := (g.worked g.buffered.work).outbox.push (.generationCompleted
            ((g.context.made g.buffered.work).countP Emission.isSegment)
            ((g.context.made g.buffered.work).countP Emission.isLeaf)) } := by
  have hread : g.buffered.work - g.buffered.iterations.toNat = g.buffered.symbols.length :=
    Nat.add_sub_cancel_left _ _
  have hmade : g.context.made g.buffered.work
      = g.context.drawn g.buffered.symbols g.buffered.symbols.length :=
    congrArg (g.context.drawn g.buffered.symbols) hread
  have hle : g.buffered.iterations.toNat ≤ g.buffered.work := Nat.le_add_right _ _
  rw [worked_of_le hle, hread, hmade]
  exact settle_reading_all

theorem advance_of_expanding {g : Grower σ} {run : Run} {e e' : Expansion}
    (hrun : g.run = some run) (hstage : run.stage = .expanding e)
    (hnext : e.advance? = some e') :
    g.advance = ({ g with run := some { run with stage := Stage.ofExpansion e' } }.report
      (.grammarExpanded e'.completed e'.current.utf8ByteSize)).settle := by
  simp only [advance, hrun, hstage, hnext]

/-- **The moves of a unit of work.**  It sets the run, and may report a pass or emit something
before the run is settled. -/
theorem advance_cases (g : Grower σ) :
    g.advance = g ∨ ∃ run : Run,
      g.advance = { g with run := some run }.settle ∨
      (∃ pass bytes, g.advance
        = ({ g with run := some run }.report (.grammarExpanded pass bytes)).settle) ∨
      ∃ e, g.advance = ({ g with run := some run }.emit e).settle := by
  rcases hrun : g.run with - | ⟨p, stage, segments, leaves⟩
  · exact Or.inl (advance_of_idle hrun)
  refine Or.inr ?_
  rcases stage with e | r
  · rcases he : e.advance? with - | e'
    · refine ⟨⟨p, Stage.ofExpansion e, segments, leaves⟩, Or.inl ?_⟩
      simp only [advance, hrun, he]
    · exact ⟨_, Or.inr (Or.inl ⟨_, _, advance_of_expanding hrun rfl he⟩)⟩
  · rcases hr : r.advance (g.drawingContext ⟨p, .interpreting r, segments, leaves⟩)
      with ⟨r', - | e⟩
    · exact ⟨_, Or.inl (advance_of_interpreting hrun rfl hr)⟩
    · exact ⟨_, Or.inr (Or.inr ⟨e, advance_of_interpreting hrun rfl hr⟩)⟩

omit [Scene σ] in
/-- Reports that are appended one by one are appended together. -/
theorem push_append_toArray {α : Type} (a : Array α) (l : List α) (x : α) :
    (a ++ l.toArray).push x = a ++ (l ++ [x]).toArray := by
  simp

/-- A pass reports its number and the length of its string. -/
theorem workReports_pass {g : Grower σ} {w : Nat} (h : w < g.buffered.iterations.toNat) :
    g.workReports (w + 1) = g.workReports w
      ++ [.grammarExpanded (UInt32.ofNat (w + 1)) (g.buffered.symbolsAfter (w + 1)).utf8ByteSize] := by
  have hmade : g.context.made w = [] := DrawingContext.made_of_le (Nat.le_of_lt h)
  have hmade' : g.context.made (w + 1) = [] := DrawingContext.made_of_le h
  have hmin : min w g.buffered.iterations.toNat = w := by omega
  have hmin' : min (w + 1) g.buffered.iterations.toNat = w + 1 := by omega
  simp only [workReports, hmade, hmade', hmin, hmin', Parameters.passReports_succ,
    Scene.names?_nil, List.map_nil, List.append_nil]

/-- A pass is one unit of work. -/
theorem advance_worked_pass {g : Grower σ} {w : Nat} (h : w < g.buffered.iterations.toNat) :
    (g.worked w).advance = (g.worked (w + 1)).settle := by
  have hstage : (Run.after g.context w).stage = .expanding _ := Stage.after_of_lt h
  have hmade : g.context.made w = [] := DrawingContext.made_of_le (Nat.le_of_lt h)
  have hmade' : g.context.made (w + 1) = [] := DrawingContext.made_of_le h
  rw [advance_of_expanding rfl hstage (Expansion.advance?_after h), Stage.ofExpansion_after h]
  refine congrArg settle ?_
  simp only [worked, report, Run.after, hmade, hmade', workReports_pass h, Scene.with?_nil,
    Scene.names?_nil, ← push_append_toArray]
  rfl

/-- A symbol is one unit of work. -/
theorem advance_worked_symbol {g : Grower σ} {w : Nat} (hw : g.buffered.iterations.toNat ≤ w)
    (h : w < g.buffered.work) : (g.worked w).advance = (g.worked (w + 1)).settle := by
  rw [Parameters.work] at h
  have hw' : g.buffered.iterations.toNat ≤ w + 1 := Nat.le_succ_of_le hw
  rw [worked_of_le hw, worked_of_le hw', Nat.sub_add_comm hw]
  exact advance_reading (by omega)

/-- **A unit of work** takes a run from one unit to the next. -/
theorem advance_worked {g : Grower σ} {w : Nat} (h : w < g.buffered.work) :
    (g.worked w).advance = (g.worked (w + 1)).settle := by
  rcases Nat.lt_or_ge w g.buffered.iterations.toNat with hw | hw
  · exact advance_worked_pass hw
  · exact advance_worked_symbol hw h

/-! ### Many units of work -/

/-- The run is in flight exactly while units of work are left. -/
theorem isRunning_settle_worked {g : Grower σ} {w : Nat} (h : w ≤ g.buffered.work) :
    (g.worked w).settle.isRunning = decide (w < g.buffered.work) := by
  rcases Nat.lt_or_eq_of_le h with hlt | rfl
  · rw [settle_worked_of_lt hlt, decide_eq_true hlt]
    rfl
  · rw [settle_worked_all, decide_eq_false (Nat.lt_irrefl _)]
    rfl

/-- Units of work add up, and beyond the last one nothing happens. -/
theorem advanceTimes_settle_worked (n : Nat) {g : Grower σ} {w : Nat}
    (h : w ≤ g.buffered.work) :
    advanceTimes n (g.worked w).settle = (g.worked (min (w + n) g.buffered.work)).settle := by
  induction n generalizing w with
  | zero => rw [Nat.add_zero, Nat.min_eq_left h]; rfl
  | succ n ih =>
    rcases Nat.lt_or_eq_of_le h with hlt | rfl
    · have hstep : (g.worked w).settle.advance = (g.worked (w + 1)).settle := by
        rw [settle_worked_of_lt hlt, advance_worked hlt]
      rw [advanceTimes, hstep, ih hlt]
      congr 3
      omega
    -- the run has ended, so this unit and all others change nothing
    · have hrest : (g.worked g.buffered.work).settle.run = none := by rw [settle_worked_all]
      have hsame : min (g.buffered.work + (n + 1)) g.buffered.work
          = min (g.buffered.work + n) g.buffered.work := by omega
      rw [hsame, advanceTimes_of_idle hrest, ← ih h, advanceTimes_of_idle hrest]

theorem passesLeft_settle_worked {g : Grower σ} {w : Nat} (h : w ≤ g.buffered.work) :
    (g.worked w).settle.passesLeft = g.buffered.iterations.toNat - w := by
  rcases Nat.lt_or_eq_of_le h with hlt | rfl
  · rw [settle_worked_of_lt hlt]
    rcases Nat.lt_or_ge w g.buffered.iterations.toNat with hw | hw
    · have hstage : (Run.after g.context w).stage = .expanding _ := Stage.after_of_lt hw
      show (Run.after g.context w).passesLeft = _
      simp only [Run.passesLeft, hstage]
      exact Expansion.remaining_after (Nat.le_of_lt hw)
    · have hstage : (Run.after g.context w).stage = .interpreting _ := Stage.after_of_le hw
      show (Run.after g.context w).passesLeft = _
      simp only [Run.passesLeft, hstage]
      omega
  · rw [settle_worked_all, Parameters.work]
    show 0 = _
    omega

theorem symbolsLeft_settle_worked {g : Grower σ} {w : Nat}
    (hw : g.buffered.iterations.toNat ≤ w) (h : w ≤ g.buffered.work) :
    (g.worked w).settle.symbolsLeft = g.buffered.work - w := by
  rcases Nat.lt_or_eq_of_le h with hlt | rfl
  · have hstage : (Run.after g.context w).stage = .interpreting _ := Stage.after_of_le hw
    rw [settle_worked_of_lt hlt]
    show (Run.after g.context w).symbolsLeft = _
    simp only [Run.symbolsLeft, hstage, Reading.remaining, Reading.after]
    show g.buffered.symbols.length - (w - g.buffered.iterations.toNat) = _
    rw [Parameters.work]
    omega
  · rw [settle_worked_all, Nat.sub_self]
    rfl

/-- All work of a new run, its passes and its symbols. -/
theorem advanceToEnd_settle_worked (g : Grower σ) :
    (g.worked 0).settle.advanceToEnd = (g.worked g.buffered.work).settle := by
  have hpasses : g.buffered.iterations.toNat ≤ g.buffered.work := Nat.le_add_right _ _
  rw [advanceToEnd, passesLeft_settle_worked (Nat.zero_le _),
    advanceTimes_settle_worked _ (Nat.zero_le _), Nat.zero_add, Nat.sub_zero,
    Nat.min_eq_left hpasses, symbolsLeft_settle_worked (Nat.le_refl _) hpasses,
    advanceTimes_settle_worked _ hpasses]
  congr 2
  omega

/-! ### Regeneration -/

theorem sown_eq (g : Grower σ) : g.sown = (g.planted.worked 0).settle := by
  -- the run is that of the live parameters, which have just become the buffered ones
  have hrun : Run.begin g.planted.parameters = Run.begin g.planted.buffered := by
    rw [planted_parameters, planted_buffered]
  rw [sown, hrun, worked_zero]

/-- A stepwise regeneration leaves all work to the ticks. -/
theorem regenerate_of_stepwise {g : Grower σ} (h : g.parameters.growthMode = .stepwise) :
    g.regenerate = (g.planted.worked 0).settle := by
  rw [regenerate_eq, h, sown_eq]

/-- An instant regeneration does all work at once. -/
theorem regenerate_of_instant {g : Grower σ} (h : g.parameters.growthMode = .instant) :
    g.regenerate = (g.planted.worked g.parameters.work).settle := by
  rw [regenerate_eq, h, sown_eq]
  show (g.planted.worked 0).settle.advanceToEnd = _
  rw [advanceToEnd_settle_worked, planted_buffered]

end Grower

end TurtleTree
