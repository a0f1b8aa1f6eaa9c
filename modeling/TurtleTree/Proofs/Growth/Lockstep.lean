/-
TurtleTree/Proofs/Growth/Lockstep.lean

Two growers that are asked the same.

What a grower does next depends on few of its values: the parameters, live and
captured, the poll timer, and how much of a run is left (`Agree`).  So a relation of
growers that fixes these values, and that every single move keeps, is kept by whatever a
host asks of both (`Lockstep`).  A law about two growers needs a lemma about each move;
loops, polls and commands are put together from moves here, once for all relations.

Main result: `Lockstep.respondAll`.
-/
import TurtleTree.Proofs.Growth.Request

namespace TurtleTree

namespace Grower

variable {σ τ : Type}

/-! ### Moves -/

/-- The grower with other parameters, live and captured, and another time since the last
poll. -/
def adjusted (g : Grower σ) (p q : Parameters) (d : Duration) : Grower σ :=
  { g with parameters := p, buffered := q, pollElapsed := d }

/-- The grower with a new table drawn. -/
def redrawn (g : Grower σ) : Grower σ :=
  { g with variance := g.provider.redraw.1, provider := g.provider.redraw.2 }

/-- The grower with a run of the parameters given begun and announced. -/
def announcing (g : Grower σ) (p : Parameters) : Grower σ :=
  { g with run := some (Run.begin p) }.report
    (.regenerationStarted p.ruleSet p.iterations p.growthMode)

/-- Two growers agree in the values that decide what they do next. -/
structure Agree (g : Grower σ) (g' : Grower τ) : Prop where
  interval : g'.config.pollInterval = g.config.pollInterval
  live : g'.parameters = g.parameters
  captured : g'.buffered = g.buffered
  elapsed : g'.pollElapsed = g.pollElapsed
  running : g'.isRunning = g.isRunning
  passesLeft : g'.passesLeft = g.passesLeft
  symbolsLeft : g'.symbolsLeft = g.symbolsLeft

variable [Scene σ] [Scene τ]

/-- Growers in a relation agree, and every move of both keeps them in the relation. -/
structure Lockstep (R : Grower σ → Grower τ → Prop) : Prop where
  agree : ∀ {g g'}, R g g' → Agree g g'
  adjusted : ∀ {g g'} (p q : Parameters) (d : Duration), R g g' →
    R (g.adjusted p q d) (g'.adjusted p q d)
  redrawn : ∀ {g g'}, R g g' → R g.redrawn g'.redrawn
  noticed : ∀ {g g'}, R g g' → R (g.report .parametersChanged) (g'.report .parametersChanged)
  announcing : ∀ {g g'} (p : Parameters), R g g' → R (g.announcing p) (g'.announcing p)
  stopRun : ∀ {g g'}, R g g' → R g.stopRun g'.stopRun
  discardEmissions : ∀ {g g'}, R g g' → R g.discardEmissions g'.discardEmissions
  cleanup : ∀ {g g'}, R g g' → R g.cleanup g'.cleanup
  settle : ∀ {g g'}, R g g' → R g.settle g'.settle
  advance : ∀ {g g'}, R g g' → R g.advance g'.advance

/-! ### What commands are made of -/

theorem beginRun_eq (g : Grower σ) :
    g.beginRun = match g.parameters.growthMode with
      | .stepwise => (g.announcing g.parameters).settle
      | .instant => (g.announcing g.parameters).settle.advanceToEnd := rfl

theorem regenerate_eq_adjusted (g : Grower σ) :
    g.regenerate
      = (g.adjusted g.parameters g.parameters g.pollElapsed).stopRun.cleanup.beginRun := rfl

theorem poll_eq (g : Grower σ) (d : Duration) :
    g.poll d =
      if g.config.pollInterval ≤ g.pollElapsed + d then
        if g.parameters.differsFrom g.buffered then
          ((g.adjusted g.parameters g.buffered Duration.zero).report
            .parametersChanged).regenerate
        else g.adjusted g.parameters g.buffered Duration.zero
      else g.adjusted g.parameters g.buffered (g.pollElapsed + d) := rfl

theorem toggleGrowth_eq (g : Grower σ) :
    g.toggleGrowth
      = (g.adjusted { g.parameters with growthObserved := !g.parameters.growthObserved }
          g.buffered g.pollElapsed).regenerate := rfl

theorem toggleRandom_eq (g : Grower σ) :
    g.toggleRandom
      = (g.redrawn.adjusted (withRandomSwitched g.parameters) g.buffered
          g.pollElapsed).regenerate := rfl

/-! ### Whatever a host asks -/

namespace Lockstep

variable {R : Grower σ → Grower τ → Prop} {g : Grower σ} {g' : Grower τ}

theorem advanceTimes (hR : Lockstep R) (n : Nat) (h : R g g') :
    R (Grower.advanceTimes n g) (Grower.advanceTimes n g') := by
  induction n generalizing g g' with
  | zero => exact h
  | succ n ih => exact ih (hR.advance h)

theorem advanceToEnd (hR : Lockstep R) (h : R g g') : R g.advanceToEnd g'.advanceToEnd := by
  -- the symbols left are counted after the passes
  have hmade := hR.advanceTimes g.passesLeft h
  rw [Grower.advanceToEnd, Grower.advanceToEnd, (hR.agree h).passesLeft]
  show R (Grower.advanceTimes _ _) (Grower.advanceTimes _ _)
  rw [(hR.agree hmade).symbolsLeft]
  exact hR.advanceTimes _ hmade

theorem beginRun (hR : Lockstep R) (h : R g g') : R g.beginRun g'.beginRun := by
  have hstart := hR.settle (hR.announcing g.parameters h)
  rw [beginRun_eq, beginRun_eq, (hR.agree h).live]
  rcases g.parameters.growthMode with - | -
  · exact hR.advanceToEnd hstart
  · exact hstart

theorem regenerate (hR : Lockstep R) (h : R g g') : R g.regenerate g'.regenerate := by
  rw [regenerate_eq_adjusted, regenerate_eq_adjusted, (hR.agree h).live, (hR.agree h).elapsed]
  exact hR.beginRun (hR.cleanup (hR.stopRun (hR.adjusted _ _ _ h)))

theorem poll (hR : Lockstep R) (d : Duration) (h : R g g') : R (g.poll d) (g'.poll d) := by
  obtain ⟨hinterval, hlive, hcaptured, helapsed, -, -, -⟩ := hR.agree h
  rw [poll_eq, poll_eq, hinterval, hlive, hcaptured, helapsed]
  split
  · split
    · exact hR.regenerate (hR.noticed (hR.adjusted _ _ _ h))
    · exact hR.adjusted _ _ _ h
  · exact hR.adjusted _ _ _ h

theorem apply (hR : Lockstep R) (c : Command) (h : R g g') : R (g.apply c) (g'.apply c) := by
  obtain ⟨-, hlive, hcaptured, helapsed, -, -, -⟩ := hR.agree h
  cases c with
  | regenerate => exact hR.regenerate h
  | toggleGrowth =>
    show R g.toggleGrowth g'.toggleGrowth
    rw [toggleGrowth_eq, toggleGrowth_eq, hlive, hcaptured, helapsed]
    exact hR.regenerate (hR.adjusted _ _ _ h)
  | toggleRandom =>
    show R g.toggleRandom g'.toggleRandom
    rw [toggleRandom_eq, toggleRandom_eq, hlive, hcaptured, helapsed]
    exact hR.regenerate (hR.adjusted _ _ _ (hR.redrawn h))
  | update p =>
    show R (g.adjusted p g.buffered g.pollElapsed) (g'.adjusted p g'.buffered g'.pollElapsed)
    rw [hcaptured, helapsed]
    exact hR.adjusted _ _ _ h
  | tick d => exact hR.advance (hR.poll d h)

theorem cancel (hR : Lockstep R) (h : R g g') : R g.cancel g'.cancel := by
  rw [Grower.cancel, Grower.cancel, (hR.agree h).running]
  split
  · exact hR.discardEmissions (hR.stopRun h)
  · exact h

theorem respond (hR : Lockstep R) (r : Request) (h : R g g') :
    R (g.respond r) (g'.respond r) := by
  cases r with
  | command c => exact hR.apply c h
  | cancel => exact hR.cancel h

/-- **Growers in lockstep stay in lockstep**, whatever a host asks of both. -/
theorem respondAll (hR : Lockstep R) (h : R g g') (rs : List Request) :
    R (g.respondAll rs) (g'.respondAll rs) := by
  induction rs generalizing g g' with
  | nil => exact h
  | cons r rs ih => exact ih (hR.respond r h)

end Lockstep

end Grower

end TurtleTree
