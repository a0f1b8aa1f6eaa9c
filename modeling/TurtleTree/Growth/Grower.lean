/-
TurtleTree/Growth/Grower.lean

The grower: it turns parameters into a tree in a scene, at once or one unit of
work per tick, and grows a new tree whenever a command or a poll calls for one.

A run makes its passes, then interprets its symbols.  Whatever starts a new run
first stops the one in flight and removes everything it emitted.  A fixed poll
interval, counted in the time of ticks, compares the live parameters with those
of the last regeneration.

Design.  A grower is a value and a command maps growers to growers.  Reports
are appended to an outbox that is part of the value and that the host empties.
Without a scene a run expands and interprets all the same, and emits nothing.
-/
import TurtleTree.Growth.Message
import TurtleTree.Growth.Run

namespace TurtleTree

/-! ### Configuration -/

/-- Settings of a grower that stay fixed. -/
structure GrowthConfig where
  /-- Time between two looks at the parameters. -/
  pollInterval : Duration
  /-- Seed of the variance provider. -/
  seed : UInt64
  /-- Number of leaf colours to draw from. -/
  paletteSize : Nat
  emitBranches : Bool
  emitLeaves : Bool
deriving DecidableEq

namespace GrowthConfig

/-- Poll interval of 200 milliseconds. -/
def standardPollInterval : Duration := Duration.ofMilliseconds 200

/-- Seed used when the host does not choose one. -/
def standardSeed : UInt64 := 0x9e3779b97f4a7c15

/-- The configuration of a seed, with everything else as usual. -/
def ofSeed (seed : UInt64) : GrowthConfig :=
  ⟨standardPollInterval, seed, 0, true, true⟩

end GrowthConfig

/-! ### Growers -/

/-- A grower over scenes in `σ`. -/
structure Grower (σ : Type) where
  config : GrowthConfig
  /-- Live parameters, with edits that no poll has found yet. -/
  parameters : Parameters
  /-- Parameters of the last regeneration. -/
  buffered : Parameters
  scene : Option σ
  provider : VarianceProvider
  variance : VarianceTable
  /-- Leaf material drawn for the current run. -/
  material : Option Material
  /-- Handles of everything emitted since the last cleanup. -/
  emitted : Array EmissionHandle
  run : Option Run
  /-- Symbols of the last run that reached its end. -/
  lastSymbols : Option String
  completed : Bool
  /-- Time since the last poll. -/
  pollElapsed : Duration
  /-- Reports that the host has not taken yet. -/
  outbox : Array Event

namespace Grower

variable {σ : Type}

/-- A grower that has not grown anything yet. -/
def begin (config : GrowthConfig) (parameters : Parameters) (scene : Option σ) : Grower σ where
  config
  parameters
  buffered := parameters
  scene
  provider := VarianceProvider.ofSeed config.seed
  variance := VarianceTable.zero
  material := none
  emitted := #[]
  run := none
  lastSymbols := none
  completed := false
  pollElapsed := Duration.zero
  outbox := #[]

/-- A run is waiting for ticks. -/
def isRunning (g : Grower σ) : Bool := g.run.isSome

/-- Current progress. -/
def phase (g : Grower σ) : Phase :=
  match g.run with
  | some run => run.stage.phase
  | none => if g.completed then .complete else .idle

/-- Symbols of the latest run, once its passes are made. -/
def expanded (g : Grower σ) : Option String :=
  match g.run with
  | some run =>
    match run.stage with
    | .expanding _ => none
    | .interpreting r => some r.symbols
  | none => g.lastSymbols

/-- Append a report. -/
def report (g : Grower σ) (e : Event) : Grower σ := { g with outbox := g.outbox.push e }

/-- The reports so far and the grower with an empty outbox. -/
def takeEvents (g : Grower σ) : Array Event × Grower σ := (g.outbox, { g with outbox := #[] })

/-- Passes left of the run in flight. -/
def passesLeft (g : Grower σ) : Nat := (g.run.map Run.passesLeft).getD 0

/-- Symbols left of the run in flight, once symbols are read. -/
def symbolsLeft (g : Grower σ) : Nat := (g.run.map Run.symbolsLeft).getD 0

/-- What decides the effect of a symbol of a run. -/
def drawingContext (g : Grower σ) (run : Run) : DrawingContext where
  parameters := run.parameters
  variance := g.variance
  material := g.material
  emitBranches := g.config.emitBranches
  emitLeaves := g.config.emitLeaves

variable [Scene σ]

/-! ### Stopping -/

/-- Stop the run in flight, if there is one, and report it. -/
def stopRun (g : Grower σ) : Grower σ :=
  match g.run with
  | none => g
  | some run => { g with run := none }.report (.runCancelled (run.segments + run.leaves))

/-- Hide everything emitted and clear the scene. -/
def discardEmissions (g : Grower σ) : Grower σ :=
  match g with
  | { scene := none, .. } => { g with emitted := #[] }
  | { scene := some s, emitted, .. } =>
    { g with
      scene := some (Scene.clear (emitted.foldl (fun s h => Scene.setActive s h false) s))
      emitted := #[] }

/-- Stop the run in flight and remove what it emitted.  Without one, nothing
happens. -/
def cancel (g : Grower σ) : Grower σ :=
  if g.isRunning then g.stopRun.discardEmissions else g

/-! ### Working -/

/-- Hand an emission to the scene, if there is one. -/
def emit (g : Grower σ) (e : Emission) : Grower σ :=
  match g with
  | { scene := none, .. } => g
  | { scene := some s, emitted, outbox, .. } =>
    let (h, s) := Scene.add s e
    { g with
      scene := some s
      emitted := emitted.push h
      outbox := outbox.push (Event.emitted h) }

/-- End the run when all its symbols were read. -/
def settle (g : Grower σ) : Grower σ :=
  match g.run with
  | some ⟨_, .interpreting r, segments, leaves⟩ =>
    if r.isExhausted then
      { g with run := none, lastSymbols := some r.symbols, completed := true }.report
        (.generationCompleted segments leaves)
    else g
  | _ => g

/-- One unit of work: a pass or a symbol. -/
def advance (g : Grower σ) : Grower σ :=
  match g.run with
  | none => g
  | some run =>
    match run.stage with
    | .expanding e =>
      match e.advance? with
      | none => { g with run := some { run with stage := Stage.ofExpansion e } }.settle
      | some e =>
        ({ g with run := some { run with stage := Stage.ofExpansion e } }.report
          (.grammarExpanded e.completed e.current.utf8ByteSize)).settle
    | .interpreting r =>
      match r.advance (g.drawingContext run) with
      | (r, none) => { g with run := some { run with stage := .interpreting r } }.settle
      | (r, some e) =>
        ({ g with run := some ({ run with stage := .interpreting r }.count e) }.emit e).settle

/-- `n` units of work. -/
def advanceTimes : Nat → Grower σ → Grower σ
  | 0, g => g
  | n + 1, g => advanceTimes n g.advance

/-- All work of the run in flight: its passes, then its symbols. -/
def advanceToEnd (g : Grower σ) : Grower σ :=
  let g := advanceTimes g.passesLeft g
  advanceTimes g.symbolsLeft g

/-! ### Regenerating -/

/-- Remove the last tree, and draw the leaf material and the variance of the next.
The material is drawn first. -/
def cleanup (g : Grower σ) : Grower σ :=
  let g := g.discardEmissions
  let (index, provider) :=
    if g.parameters.randomLeafColor then g.provider.drawIndex g.config.paletteSize
    else (none, g.provider)
  let (variance, provider) := provider.redraw
  { g with
    lastSymbols := none
    completed := false
    material := index.bind fun i => if i < 2 ^ 32 then some ⟨UInt32.ofNat i⟩ else none
    variance
    provider }

/-- Begin a run of the live parameters.  An instant one is done at once. -/
def beginRun (g : Grower σ) : Grower σ :=
  let p := g.parameters
  let g := { g with run := some (Run.begin p) }.report
    (.regenerationStarted p.ruleSet p.iterations p.growthMode)
  match p.growthMode with
  | .stepwise => g.settle
  | .instant => g.settle.advanceToEnd

/-- Discard the tree and grow a new one from the live parameters. -/
def regenerate (g : Grower σ) : Grower σ :=
  { g with buffered := g.parameters }.stopRun.cleanup.beginRun

/-! ### Commands -/

/-- Switch between instant and stepwise growth, and regenerate. -/
def toggleGrowth (g : Grower σ) : Grower σ :=
  regenerate
    { g with parameters := { g.parameters with growthObserved := !g.parameters.growthObserved } }

/-- The parameters with random mode switched.  Leaving it sets the variance to
zero. -/
def withRandomSwitched (p : Parameters) : Parameters :=
  if p.randomMode then { p with randomMode := false, angleVariance := 0 }
  else { p with randomMode := true }

/-- Switch random mode, draw a new table and regenerate. -/
def toggleRandom (g : Grower σ) : Grower σ :=
  let (variance, provider) := g.provider.redraw
  regenerate { g with parameters := withRandomSwitched g.parameters, variance, provider }

/-- Look at the parameters if the poll interval has passed, and regenerate if they
were edited. -/
def poll (g : Grower σ) (elapsed : Duration) : Grower σ :=
  let sum := g.pollElapsed + elapsed
  if g.config.pollInterval ≤ sum then
    let g := { g with pollElapsed := Duration.zero }
    if g.parameters.differsFrom g.buffered then (g.report .parametersChanged).regenerate else g
  else { g with pollElapsed := sum }

/-- Let time pass: a poll, then one unit of work of a run in flight. -/
def tick (g : Grower σ) (elapsed : Duration) : Grower σ := (g.poll elapsed).advance

/-- Carry out a command. -/
def apply (g : Grower σ) : Command → Grower σ
  | .regenerate => g.regenerate
  | .toggleGrowth => g.toggleGrowth
  | .toggleRandom => g.toggleRandom
  | .update parameters => { g with parameters }
  | .tick elapsed => g.tick elapsed

/-- Carry out commands in order. -/
def applyAll (g : Grower σ) (commands : List Command) : Grower σ := commands.foldl apply g

/-! ### Driving a run to its end -/

/-- Tick while a run is in flight, at most `n` times, counting on from `ticks`. -/
def tickWhileRunning (elapsed : Duration) : Nat → Grower σ × Nat → Grower σ × Nat
  | 0, r => r
  | n + 1, (g, ticks) =>
    if g.isRunning then tickWhileRunning elapsed n (g.tick elapsed, ticks + 1) else (g, ticks)

/-- Ticks for the passes left, then for the symbols left. -/
def tickThrough (elapsed : Duration) (r : Grower σ × Nat) : Grower σ × Nat :=
  let r := tickWhileRunning elapsed r.1.passesLeft r
  tickWhileRunning elapsed r.1.symbolsLeft r

/-- Tick until no run is in flight, with the number of ticks.  A poll can restart
the run, but only once, because the restart takes over the live parameters; so
going through a run twice is enough. -/
def tickToEnd (elapsed : Duration) (g : Grower σ) : Grower σ × Nat :=
  tickThrough elapsed (tickThrough elapsed (g, 0))

end Grower

end TurtleTree
