/-
TurtleTree/Proofs/Program/Headless.lean

What the program grows without a window.

The tree of a new grower is a function of its parameters and of what is drawn
first from its seed: an index for the leaf colour, if there is one to draw, and
then the table of perturbations (`GrowthConfig.firstDraws`).  Instant growth is
over when it has begun, and stepwise growth is driven by ticks to the same end.

The loop of ticks has no bound of its own.  Nobody edits the parameters while it
runs, so its polls find nothing, also if they are made at every tick.

Main result: the loop ends after one tick for every pass and every symbol, or
none if growth is instant, and the scene then shows what the pure interpretation
of the symbols leaves behind (`Grower.headless_growth`).
-/
import TurtleTree.Program.Task
import TurtleTree.Proofs.Growth.Driving
import TurtleTree.Proofs.Growth.Pipeline
import TurtleTree.Proofs.Random.Index

namespace TurtleTree

open Command (ticking)

/-! ### What is drawn first -/

namespace GrowthConfig

/-- What is drawn for the first tree: an index of a leaf colour, if leaves are to have a
random one and there are any, and after it a table. -/
def firstDraws (config : GrowthConfig) (p : Parameters) : Option Nat × VarianceTable :=
  let provider := VarianceProvider.ofSeed config.seed
  if p.randomLeafColor ∧ config.paletteSize ≠ 0 then
    let (index, provider) := provider.drawIndex config.paletteSize
    (index, provider.redraw.1)
  else (none, provider.redraw.1)

/-- The context in which the symbols of the first tree are read. -/
def firstContext (config : GrowthConfig) (p : Parameters) : DrawingContext where
  parameters := p
  variance := (config.firstDraws p).2
  material := (config.firstDraws p).1.bind fun i =>
    if i < 2 ^ 32 then some ⟨UInt32.ofNat i⟩ else none
  emitBranches := config.emitBranches
  emitLeaves := config.emitLeaves

/-- The material of the first tree is the index drawn, if its number has 32 bits. -/
theorem firstContext_material (config : GrowthConfig) (p : Parameters)
    (hsize : config.paletteSize ≤ 2 ^ 32) :
    (config.firstContext p).material.map (·.index.toNat) = (config.firstDraws p).1 := by
  show Option.map _ (Option.bind (config.firstDraws p).1 _) = (config.firstDraws p).1
  have hdraws : (config.firstDraws p).1 = none
      ∨ ∃ w : UInt32, (config.firstDraws p).1 = some w.toNat := by
    rw [firstDraws]
    split
    · next h =>
      obtain ⟨w, hw, -⟩ :=
        VarianceProvider.exists_drawIndex h.2 hsize (VarianceProvider.ofSeed config.seed)
      exact Or.inr ⟨w, hw⟩
    · exact Or.inl rfl
  obtain hnone | ⟨w, hw⟩ := hdraws
  · rw [hnone]
    rfl
  · rw [hw, Option.bind_some, if_pos w.toNat_lt, UInt32.ofNat_toNat]
    rfl

end GrowthConfig

/-- Units of work that a regeneration leaves to the ticks. -/
def Parameters.paceable (p : Parameters) : Nat := if p.growthObserved then p.work else 0

namespace Grower

section Planted

variable (config : GrowthConfig) (p : Parameters)

/-- The first tree is drawn with what is drawn first. -/
theorem context_planted_begin {σ : Type} [Scene σ] (scene : Option σ) :
    (begin config p scene).planted.context = config.firstContext p := by
  have hclean : (begin config p scene).planted.context
      = { (begin config p scene).cleanup with buffered := p }.context := by
    simp only [planted, report, cleanup, discardEmissions_eq, stopRun_eq]
    rfl
  rw [hclean]
  simp only [cleanup, discardEmissions_eq, begin, context, GrowthConfig.firstContext,
    GrowthConfig.firstDraws]
  rcases p.randomLeafColor with - | -
  · simp
  · rcases Nat.eq_zero_or_pos config.paletteSize with hnone | hsome
    · simp [hnone, VarianceProvider.drawIndex]
    · simp [Nat.ne_of_gt hsome]

/-- Nothing has been edited since the first tree was begun. -/
theorem untouched_planted_begin {σ : Type} [Scene σ] (scene : Option σ) :
    (begin config p scene).planted.Untouched :=
  (planted_parameters _).trans (planted_buffered _).symm

/-- The first tree is begun in an empty store. -/
theorem exists_store_planted_begin :
    ∃ s : SceneStore, (begin config p (some SceneStore.empty)).planted.scene = some s ∧
      s.records = #[] :=
  ⟨_, planted_scene _, SceneStore.records_clear _⟩

end Planted

/-- A regeneration does the work that is not left to the ticks. -/
theorem regenerate_eq_worked {σ : Type} [Scene σ] (g : Grower σ) :
    g.regenerate
      = (g.planted.worked (g.parameters.work - g.parameters.paceable)).settle := by
  rcases hpace : g.parameters.growthObserved with - | -
  · have hmode : g.parameters.growthMode = .instant := by simp [Parameters.growthMode, hpace]
    have hnone : g.parameters.paceable = 0 := by simp [Parameters.paceable, hpace]
    rw [regenerate_of_instant hmode, hnone]
    rfl
  · have hmode : g.parameters.growthMode = .stepwise := by simp [Parameters.growthMode, hpace]
    have hall : g.parameters.paceable = g.parameters.work := by simp [Parameters.paceable, hpace]
    rw [regenerate_of_stepwise hmode, hall, Nat.sub_self]

/-! ### The tree at the end -/

/-- All work done in an empty store shows the interpretation of the symbols. -/
theorem tree_settle_worked {b : Grower SceneStore} {s : SceneStore} (hs : b.scene = some s)
    (hrecords : s.records = #[]) :
    (b.worked b.buffered.work).settle.tree
      = ⟨b.parameters, b.buffered.symbols.length,
          (Interpretation.begin b.context b.buffered.symbols).emissions.filterMap
            Emission.segment?,
          (Interpretation.begin b.context b.buffered.symbols).emissions.filterMap
            Emission.leaf?⟩ := by
  have hread : b.buffered.work - b.buffered.iterations.toNat = b.buffered.symbols.length :=
    Nat.add_sub_cancel_left _ _
  have hmade : b.context.made b.buffered.work
      = (Interpretation.begin b.context b.buffered.symbols).emissions := by
    rw [← DrawingContext.drawn_length, ← hread]
    rfl
  have hscene : (b.worked b.buffered.work).settle.scene = _ :=
    (settle_scene_emitted _).1.trans (worked_scene hs _)
  have hshows := SceneStore.shows_addAll hrecords (b.context.made b.buffered.work)
  have hsymbols : (b.worked b.buffered.work).settle.symbolCount = b.buffered.symbols.length := by
    rw [settle_worked_all]
    rfl
  have hlive : (b.worked b.buffered.work).settle.parameters = b.parameters := by
    rw [settle_worked_all]
    rfl
  rw [tree, hsymbols, hlive, hscene, Option.getD_some, TreeExport.capture, hshows.activeSegments,
    hshows.activeLeaves, hmade]

/-- **Growth without a window** ends with the pure result.  For any parameters and any
configuration, the loop of ticks

* is in flight before each of its ticks, which are one for every pass and every symbol, or none
  if growth is instant, and then is complete;
* is left after as many ticks however many it may make, and is what the grower is driven with;
* never begins the run anew.

The tree then has the parameters, the number of symbols of their expansion, and exactly the
segments and leaves of the interpretation of these symbols, with the material and the table
that are drawn first. -/
theorem headless_growth (config : GrowthConfig) (p : Parameters) :
    let first := begin config p (some SceneStore.empty)
    let start := first.regenerate
    let after := fun k => start.applyAll (ticking headlessFrame k)
    let ticks := if p.growthObserved then p.iterations.toNat + p.symbols.length else 0
    let emissions := (Interpretation.begin (config.firstContext p) p.symbols).emissions
    (∀ k < ticks, (after k).isRunning = true) ∧
    (after ticks).isRunning = false ∧ (after ticks).phase = .complete ∧
    (∀ k, (after k).beginsRun (.command (.tick headlessFrame)) = false) ∧
    (∀ most, ticks ≤ most →
      tickWhileRunning headlessFrame most (start, 0) = (after ticks, ticks)) ∧
    start.tickToEnd headlessFrame = (after ticks, ticks) ∧
    first.growHeadless.tree
      = ⟨p, p.symbols.length, emissions.filterMap Emission.segment?,
          emissions.filterMap Emission.leaf?⟩ ∧
    (config.paletteSize ≤ 2 ^ 32 →
      (config.firstContext p).material.map (·.index.toNat) = (config.firstDraws p).1) := by
  intro first start after ticks emissions
  have huntouched : first.planted.Untouched := untouched_planted_begin config p _
  have hbuffered : first.planted.buffered = p := planted_buffered first
  have hticks : ticks = p.paceable := rfl
  have hpace : p.paceable ≤ p.work := by
    rw [Parameters.paceable]
    split
    · exact Nat.le_refl _
    · exact Nat.zero_le _
  -- the work done at once, and the work that is left
  have hdone : p.work - ticks ≤ first.planted.buffered.work := by
    rw [hbuffered]
    omega
  have hleft : first.planted.buffered.work - (p.work - ticks) = ticks := by
    rw [hbuffered]
    omega
  have hstart : start = (first.planted.worked (p.work - ticks)).settle :=
    regenerate_eq_worked first
  have hrunning : ∀ k, (after k).isRunning = decide (k < ticks) := by
    intro k
    show (start.applyAll _).isRunning = _
    rw [hstart, isRunning_ticks huntouched hdone, hbuffered, decide_eq_decide]
    omega
  have hend : (after ticks).isRunning = false := (hrunning ticks).trans (by simp)
  obtain ⟨elapsed, hafter⟩ := exists_applyAll_ticks huntouched hdone headlessFrame ticks
  rw [← hstart] at hafter
  have hall : min (p.work - ticks + ticks) first.planted.buffered.work
      = first.planted.buffered.work := by
    rw [hbuffered]
    omega
  rw [hall] at hafter
  have hdriven := tickToEnd_settle_worked huntouched hdone headlessFrame
  rw [← hstart, hleft] at hdriven
  refine ⟨?_, hend, ?_, ?_, ?_, hdriven, ?_, config.firstContext_material p⟩
  · intro k hk
    rw [hrunning]
    exact decide_eq_true hk
  · show (start.applyAll _).phase = _
    rw [hafter]
    exact congrArg phase (settle_worked_all (first.planted.tuned first.planted.parameters elapsed))
  · intro k
    have hquiet : (after k).Untouched := by
      show (start.applyAll _).Untouched
      rw [hstart]
      exact (huntouched.settle_worked _).ticks headlessFrame k
    rw [beginsRun_eq]
    exact hquiet.pollFinds headlessFrame
  · intro most hmost
    have hloop := tickWhileRunning_settle_worked huntouched hdone headlessFrame most 0
    rw [← hstart, hleft, Nat.min_eq_right hmost, Nat.zero_add] at hloop
    exact hloop
  · obtain ⟨s, hs, hrecords⟩ := exists_store_planted_begin config p
    have htree := tree_settle_worked
      (b := first.planted.tuned first.planted.parameters elapsed) hs hrecords
    have hcontext : (first.planted.tuned first.planted.parameters elapsed).context
        = config.firstContext p := context_planted_begin config p _
    have hsame : (first.planted.tuned first.planted.parameters elapsed).buffered = p := hbuffered
    have hlive : (first.planted.tuned first.planted.parameters elapsed).parameters = p :=
      planted_parameters first
    rw [hcontext, hsame, hlive] at htree
    have hgrown : first.growHeadless = start.applyAll (ticking headlessFrame ticks) :=
      congrArg Prod.fst hdriven
    rw [hgrown, hafter, hbuffered]
    exact htree

/-- A tree whose angle is not a number, polled at every tick: it is grown in one tick for its
pass and one for each of its twenty symbols, as well by a loop that might have made a thousand,
and its leaves have one of three materials. -/
theorem headless_growth_undefined :
    let config := { GrowthConfig.ofSeed 7 with pollInterval := Duration.zero, paletteSize := 3 }
    let p := { Parameters.standard with
      iterations := 1, angle := Float32.ofBits 0x7fc00000, randomLeafColor := true,
      growthObserved := true }
    let start := (begin config p (some SceneStore.empty)).regenerate
    p.angle.isNaN = true ∧
    tickWhileRunning headlessFrame 1000 (start, 0) = start.tickToEnd headlessFrame ∧
    (start.tickToEnd headlessFrame).2 = 21 ∧
    (config.firstContext p).material.map (·.index.toNat) = (config.firstDraws p).1 := by
  intro config p start
  have hlength : p.symbols.length = 20 := by decide +kernel
  obtain ⟨-, -, -, -, hloop, hdriven, -, hmaterial⟩ := headless_growth config p
  have hticks : (if p.growthObserved then p.iterations.toNat + p.symbols.length else 0) = 21 := by
    rw [hlength]
    rfl
  rw [hticks] at hloop hdriven
  refine ⟨by decide +kernel, ?_, ?_, hmaterial (by decide)⟩
  · exact (hloop 1000 (by decide)).trans hdriven.symm
  · exact congrArg Prod.snd hdriven

end Grower

end TurtleTree
