/-
TurtleTree/Proofs/Growth/PassLimit.lean

A bound on the passes of every run.

A grower has no bound of its own: a run makes as many passes as the live
parameters ask for when it begins.  So a bound has to hold of the parameters that
the host sends, and then it holds of everything that comes from them: the
expansion of the run in flight and the reports (`Grower.Limited`).

Main results: commands whose parameters keep to the bound keep the grower to it
(`Grower.Limited.applyAll`), and so does driving a run to its end
(`Grower.Limited.tickToEnd`).
-/
import TurtleTree.Proofs.Growth.Work

namespace TurtleTree

/-- The report is of a run of at most `n` passes, and of none of its passes after these. -/
def Event.Within (n : UInt32) : Event → Prop
  | .regenerationStarted _ iterations _ => iterations ≤ n
  | .grammarExpanded pass _ => pass ≤ n
  | _ => True

/-- The command does not ask for more than `n` passes. -/
def Command.Within (n : UInt32) : Command → Prop
  | .update p => p.iterations ≤ n
  | _ => True

/-- A pass is one of those asked for. -/
theorem Expansion.completed_le_of_advance? {e e' : Expansion} (h : e.advance? = some e') :
    e'.iterations = e.iterations ∧ e'.completed ≤ e.iterations := by
  rw [advance?] at h
  split at h
  · cases h
  · next hleft =>
    obtain rfl := Option.some.inj h
    refine ⟨rfl, ?_⟩
    have hlt : e.completed < e.iterations := by simpa [isFinished] using hleft
    have hword := e.iterations.toNat_lt
    rw [UInt32.lt_iff_toNat_lt] at hlt
    show e.completed + 1 ≤ e.iterations
    rw [UInt32.le_iff_toNat_le, UInt32.toNat_add, UInt32.toNat_one]
    omega

namespace Grower

variable {σ : Type}

/-- Nothing about the grower goes beyond `n` passes. -/
structure Limited (n : UInt32) (g : Grower σ) : Prop where
  live : g.parameters.iterations ≤ n
  passes : ∀ run ∈ g.run, ∀ e, run.stage = .expanding e → e.iterations ≤ n
  reports : ∀ e ∈ g.outbox, e.Within n

namespace Limited

variable {n : UInt32} {g : Grower σ}

/-! ### Single moves -/

theorem report (h : g.Limited n) {e : Event} (he : e.Within n) : (g.report e).Limited n where
  live := h.live
  passes := h.passes
  reports := by
    intro x hx
    rcases Array.mem_push.mp hx with hx | rfl
    · exact h.reports x hx
    · exact he

/-- A run may be replaced by one that keeps to the bound. -/
theorem withRun (h : g.Limited n) {run : Run}
    (hrun : ∀ e, run.stage = .expanding e → e.iterations ≤ n) :
    { g with run := some run }.Limited n where
  live := h.live
  passes := by
    rintro _ ⟨⟩
    exact hrun
  reports := h.reports

/-- A run that reads symbols has no passes left. -/
theorem withReading (h : g.Limited n) {run : Run} {r : Reading}
    (hstage : run.stage = .interpreting r) : { g with run := some run }.Limited n := by
  refine h.withRun ?_
  intro e he
  rw [hstage] at he
  exact nomatch he

theorem noRun (h : g.Limited n) : { g with run := none }.Limited n where
  live := h.live
  passes := fun _ hrun => nomatch hrun
  reports := h.reports

/-- Parameters are edited only within the bound. -/
theorem tuned (h : g.Limited n) {p : Parameters} (hp : p.iterations ≤ n) (d : Duration) :
    (g.tuned p d).Limited n := ⟨hp, h.passes, h.reports⟩

theorem settle (h : g.Limited n) : g.settle.Limited n := by
  rw [Grower.settle]
  split
  · split
    · exact (⟨h.live, h.noRun.passes, h.reports⟩ : Limited n { g with
        run := none, lastSymbols := some _, completed := true }).report trivial
    · exact h
  · exact h

theorem stopRun (h : g.Limited n) : g.stopRun.Limited n := by
  rw [Grower.stopRun]
  split
  · exact h
  · exact h.noRun.report trivial

variable [Scene σ]

theorem discardEmissions (h : g.Limited n) : g.discardEmissions.Limited n := by
  rw [discardEmissions_eq]
  exact ⟨h.live, h.passes, h.reports⟩

theorem emit (h : g.Limited n) (e : Emission) : (g.emit e).Limited n := by
  rw [emit_eq]
  refine ⟨h.live, h.passes, ?_⟩
  intro x hx
  rcases Array.mem_append.mp hx with hx | hx
  · exact h.reports x hx
  · obtain ⟨k, -, rfl⟩ := List.mem_map.mp (List.mem_toArray.mp hx)
    cases k <;> exact trivial

/-! ### Work -/

/-- The stage of an expansion is that expansion, or no longer an expansion. -/
theorem iterations_le_of_ofExpansion {e e' : Expansion} (he : e.iterations ≤ n)
    (h : Stage.ofExpansion e = .expanding e') : e'.iterations ≤ n := by
  rw [Stage.ofExpansion] at h
  split at h
  · cases h
  · obtain rfl := Stage.expanding.inj h
    exact he

/-- A unit of work reports no pass beyond the bound. -/
theorem advance (h : g.Limited n) : g.advance.Limited n := by
  rcases hrun : g.run with - | run
  · rw [advance_of_idle hrun]
    exact h
  have hpasses := h.passes run hrun
  rcases hstage : run.stage with e | r
  · have he : e.iterations ≤ n := hpasses e hstage
    rcases hnext : e.advance? with - | e'
    · simp only [Grower.advance, hrun, hstage, hnext]
      exact (h.withRun fun _ => iterations_le_of_ofExpansion he).settle
    · obtain ⟨hsame, hle⟩ := Expansion.completed_le_of_advance? hnext
      have hpass : (Event.grammarExpanded e'.completed e'.current.utf8ByteSize).Within n :=
        UInt32.le_trans hle he
      rw [advance_of_expanding hrun hstage hnext]
      exact ((h.withRun fun _ => iterations_le_of_ofExpansion (hsame ▸ he)).report hpass).settle
  · rcases hread : r.advance (g.drawingContext run) with ⟨r', - | x⟩
    · rw [advance_of_interpreting hrun hstage hread]
      exact (h.withReading rfl).settle
    · rw [advance_of_interpreting hrun hstage hread]
      have hcount : ({ run with stage := .interpreting r' }.count x).stage = .interpreting r' := by
        cases x <;> rfl
      exact ((h.withReading hcount).emit x).settle

theorem advanceTimes (h : g.Limited n) (k : Nat) : (Grower.advanceTimes k g).Limited n := by
  induction k generalizing g with
  | zero => exact h
  | succ k ih => exact ih h.advance

/-! ### Commands -/

/-- A new run makes the passes of the live parameters. -/
theorem regenerate (h : g.Limited n) : g.regenerate.Limited n := by
  obtain ⟨k, hk⟩ := exists_regenerate_eq g
  have hclean : { g with buffered := g.parameters }.stopRun.cleanup.Limited n := by
    have hstopped : { g with buffered := g.parameters }.stopRun.discardEmissions.Limited n :=
      (stopRun (g := { g with buffered := g.parameters })
        ⟨h.live, h.passes, h.reports⟩).discardEmissions
    exact ⟨hstopped.live, hstopped.passes, hstopped.reports⟩
  have hplanted : g.planted.Limited n := hclean.report (e := startReport _) hclean.live
  rw [hk]
  refine (settle (hplanted.withRun fun _ => ?_)).advanceTimes k
  exact iterations_le_of_ofExpansion hplanted.live

theorem tick (h : g.Limited n) (d : Duration) : (g.tick d).Limited n := by
  rcases hfinds : g.pollFinds d with - | -
  · obtain ⟨d', hd⟩ := tick_of_not_pollFinds hfinds
    rw [hd]
    exact (h.tuned h.live d').advance
  · rw [tick_of_pollFinds hfinds]
    exact ((h.tuned h.live Duration.zero).report (e := .parametersChanged) trivial).regenerate.advance

theorem apply (h : g.Limited n) {c : Command} (hc : c.Within n) : (g.apply c).Limited n := by
  cases c with
  | regenerate => exact h.regenerate
  | toggleGrowth =>
    exact regenerate (g := { g with
      parameters := { g.parameters with growthObserved := !g.parameters.growthObserved } })
      ⟨h.live, h.passes, h.reports⟩
  | toggleRandom =>
    have hlive : (withRandomSwitched g.parameters).iterations ≤ n := by
      rw [withRandomSwitched]
      split <;> exact h.live
    exact regenerate (g := { g with
      parameters := withRandomSwitched g.parameters
      variance := g.provider.redraw.1
      provider := g.provider.redraw.2 }) ⟨hlive, h.passes, h.reports⟩
  | update p => exact ⟨hc, h.passes, h.reports⟩
  | tick d => exact h.tick d

/-- **The bound is kept** by all commands that keep to it. -/
theorem applyAll (h : g.Limited n) {cs : List Command} (hcs : ∀ c ∈ cs, c.Within n) :
    (g.applyAll cs).Limited n := by
  induction cs generalizing g with
  | nil => exact h
  | cons c cs ih =>
    obtain ⟨hc, hrest⟩ := List.forall_mem_cons.mp hcs
    exact ih (h.apply hc) hrest

/-! ### Driving a run to its end -/

theorem tickWhileRunning (d : Duration) (k ticks : Nat) (h : g.Limited n) :
    (Grower.tickWhileRunning d k (g, ticks)).1.Limited n := by
  induction k generalizing g ticks with
  | zero => exact h
  | succ k ih =>
    rw [Grower.tickWhileRunning]
    split
    · exact ih _ (h.tick d)
    · exact h

theorem tickThrough (d : Duration) {r : Grower σ × Nat} (h : r.1.Limited n) :
    (Grower.tickThrough d r).1.Limited n :=
  tickWhileRunning d _ _ (tickWhileRunning d _ _ h)

theorem tickToEnd (h : g.Limited n) (d : Duration) : (g.tickToEnd d).1.Limited n :=
  tickThrough d (tickThrough d h)

end Limited

/-- A new grower keeps to a bound if its parameters do. -/
theorem limited_begin {n : UInt32} {config : GrowthConfig} {p : Parameters} {scene : Option σ}
    (hp : p.iterations ≤ n) : (begin config p scene).Limited n :=
  ⟨hp, (fun _ hrun => nomatch hrun), fun _ he => absurd he (Array.not_mem_empty _)⟩

/-- Taking the reports leaves the bound as it is. -/
theorem limited_takeEvents {n : UInt32} {g : Grower σ} (h : g.Limited n) :
    g.takeEvents.2.Limited n :=
  ⟨h.live, h.passes, fun _ he => absurd he (Array.not_mem_empty _)⟩

end Grower

end TurtleTree
