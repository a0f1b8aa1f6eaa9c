/-
TurtleTree/Proofs/Growth/Cancel.lean

Stopping a run for good.

A run that is stopped leaves one report and an empty scene behind, and everything that
decides the next run is as it was (`cancel_eq`).  What a new run removes is
then gone already, so the new run does the same with or without the stop before it.
The scene alone can tell, because it is cleared once more: this is a relation of two
outputs that every way of writing keeps (`kept_clearedMore`), and the growers are alike
from the moment at which the new run begins (`regenerate_stopped`).

Main result: `cancel_respondAll`.
-/
import TurtleTree.Proofs.Growth.Course
import TurtleTree.Proofs.Growth.Output
import TurtleTree.Proofs.Scene.Contents

namespace TurtleTree

/-! ### Clearings that only count -/

namespace SceneStore

/-- The store with the same contents, cleared `k` times more. -/
def clearedMore (k : Nat) (s : SceneStore) : SceneStore := { s with clears := s.clears + k }

/-- What is hidden before a clearing makes no difference after it. -/
theorem clear_hideAll (s : SceneStore) (hs : List EmissionHandle) :
    Scene.clear (Scene.hideAll s hs) = Scene.clear s := by
  induction hs generalizing s with
  | nil => rfl
  | cons h hs ih =>
    have hsame : (s.setActive h false).clear = s.clear := by
      rw [setActive]
      rcases s.place? h with - | i
      · rfl
      · simp only [clear, Array.size_modify]
    exact (ih (s.setActive h false)).trans hsame

theorem clear_clearedMore (s : SceneStore) (k : Nat) :
    Scene.clear (s.clearedMore k) = (Scene.clear s).clearedMore k := by
  show SceneStore.mk _ _ (s.clears + k + 1) = SceneStore.mk _ _ (s.clears + 1 + k)
  rw [Nat.add_right_comm]
  rfl

/-- What is cleared already has nothing more to lose. -/
theorem clear_clear (s : SceneStore) :
    Scene.clear (Scene.clear s) = (Scene.clear s).clearedMore 1 := rfl

theorem add_clearedMore (s : SceneStore) (k : Nat) (e : Emission) :
    Scene.add (s.clearedMore k) e = ((Scene.add s e).1, (Scene.add s e).2.clearedMore k) := by
  cases e <;> rfl

end SceneStore

/-- The output with its store cleared `k` times more. -/
def Output.clearedMore (k : Nat) (o : Output SceneStore) : Output SceneStore :=
  { o with scene := o.scene.map (SceneStore.clearedMore k) }

namespace Grower

/-- The grower with its store cleared `k` times more. -/
def clearedMore (k : Nat) (g : Grower SceneStore) : Grower SceneStore :=
  g.put (g.output.clearedMore k)

theorem kept_clearedMore (k : Nat) :
    Kept fun (o : Output SceneStore) o' => o' = o.clearedMore k where
  report := by
    rintro o - e - rfl
    rfl
  discard := by
    rintro o - rfl
    rcases o with ⟨- | s, emitted, outbox⟩
    · rfl
    · simp only [Output.discard, Output.clearedMore, Option.map_some, SceneStore.clear_hideAll,
        SceneStore.clear_clearedMore]
  emit := by
    rintro o - e rfl
    rcases o with ⟨- | s, emitted, outbox⟩
    · rfl
    · simp only [Output.emit, Output.clearedMore, Option.map_some, Scene.with?, Scene.names?,
        Scene.addAll, SceneStore.add_clearedMore]

/-- Growers that are alike but for clearings are the same but for them. -/
theorem Alike.eq_clearedMore {k : Nat} {g g' : Grower SceneStore}
    (h : Alike (fun o o' => o' = o.clearedMore k) g g') : g' = g.clearedMore k := by
  have houtput := h.output
  rw [h.eq_put, houtput]
  rfl

theorem clearedMore_zero (g : Grower SceneStore) : g.clearedMore 0 = g := by
  have hscene : g.scene.map (SceneStore.clearedMore 0) = g.scene := by
    rcases g.scene with - | s <;> rfl
  show { g with scene := g.scene.map (SceneStore.clearedMore 0) } = g
  rw [hscene]

/-! ### A stop before a new run -/

/-- A tree that was removed has nothing left to remove, but the scene is cleared again. -/
theorem discardEmissions_discardEmissions (g : Grower SceneStore) :
    g.discardEmissions.discardEmissions = g.discardEmissions.clearedMore 1 := by
  rw [discardEmissions_eq, discardEmissions_eq]
  rcases g.scene with - | s
  · rfl
  · simp only [Option.map_some, SceneStore.clear_hideAll, SceneStore.clear_clear]
    rfl

theorem cleanup_discardEmissions (g : Grower SceneStore) :
    g.discardEmissions.cleanup = g.cleanup.clearedMore 1 := by
  simp only [cleanup, discardEmissions_discardEmissions]
  rfl

theorem stopRun_of_idle {σ : Type} {g : Grower σ} (h : g.run = none) : g.stopRun = g := by
  simp only [stopRun, h]

/-- A new run does the same after a stop, and only clears the scene once more. -/
theorem regenerate_stopped (g : Grower SceneStore) :
    g.stopRun.discardEmissions.regenerate = g.regenerate.clearedMore 1 := by
  -- both capture the parameters first, and there is one run to stop in both
  have hcapture : ({ g.stopRun.discardEmissions with
        buffered := g.stopRun.discardEmissions.parameters } : Grower SceneStore)
      = { g with buffered := g.parameters }.stopRun.discardEmissions := by
    simp only [discardEmissions_eq, stopRun_eq]
    rfl
  have hready : { g.stopRun.discardEmissions with
        buffered := g.stopRun.discardEmissions.parameters }.stopRun.cleanup
      = { g with buffered := g.parameters }.stopRun.cleanup.clearedMore 1 := by
    rw [hcapture, stopRun_of_idle (stopped_run _), cleanup_discardEmissions]
  have halike : Alike (fun o o' => o' = o.clearedMore 1)
      { g with buffered := g.parameters }.stopRun.cleanup
      ({ g with buffered := g.parameters }.stopRun.cleanup.clearedMore 1) := .intro _ rfl
  rw [regenerate, hready]
  exact ((Alike.lockstep (kept_clearedMore 1)).beginRun halike).eq_clearedMore

/-- What a command sets before it begins a run is the same after a stop. -/
theorem reset_stopped (g : Grower SceneStore) (p : Parameters) (v : VarianceTable)
    (q : VarianceProvider) (d : Duration) :
    g.stopRun.discardEmissions.reset p v q d = (g.reset p v q d).stopRun.discardEmissions := by
  simp only [discardEmissions_eq, stopRun_eq]
  rfl

/-- A command that begins a run does the same after a stop. -/
theorem apply_stopped (g : Grower SceneStore) {c : Command}
    (hc : c = .regenerate ∨ c = .toggleGrowth ∨ c = .toggleRandom) :
    g.stopRun.discardEmissions.apply c = (g.apply c).clearedMore 1 := by
  rcases hc with rfl | rfl | rfl
  · exact regenerate_stopped g
  · have h := regenerate_stopped (g.reset
      { g.parameters with growthObserved := !g.parameters.growthObserved }
      g.variance g.provider g.pollElapsed)
    rw [← reset_stopped] at h
    simp only [discardEmissions_eq, stopRun_eq] at h ⊢
    exact h
  · have h := regenerate_stopped (g.reset (withRandomSwitched g.parameters)
      g.provider.redraw.1 g.provider.redraw.2 g.pollElapsed)
    rw [← reset_stopped] at h
    simp only [discardEmissions_eq, stopRun_eq] at h ⊢
    exact h

/-! ### Cancelling -/

section Cancelling

variable {σ : Type} [Scene σ] {g : Grower σ}

theorem cancel_of_isRunning (h : g.isRunning = true) :
    g.cancel = g.stopRun.discardEmissions := if_pos h

theorem cancel_of_not_isRunning (h : g.isRunning = false) : g.cancel = g :=
  if_neg (Bool.eq_false_iff.mp h)

/-- A second stop finds no run. -/
theorem cancel_cancel (g : Grower σ) : g.cancel.cancel = g.cancel := by
  rcases h : g.isRunning with - | -
  · rw [cancel_of_not_isRunning h, cancel_of_not_isRunning h]
  · refine cancel_of_not_isRunning ?_
    rw [cancel_of_isRunning h, isRunning, stopped_run]
    rfl

/-- A grower with a run in flight has no symbols of an earlier run, and is not complete. -/
theorem unfinished_of_isRunning (config : GrowthConfig) (p : Parameters) (scene : Option σ)
    (rs : List Request) (h : ((begin config p scene).respondAll rs).isRunning = true) :
    ((begin config p scene).respondAll rs).lastSymbols = none ∧
      ((begin config p scene).respondAll rs).completed = false := by
  have hcourse := Course.respondAll (m := 0) (k := 0) (g := begin config p scene)
    (R := fun _ _ _ => True) (B := fun _ _ g => g.lastSymbols = none ∧ g.completed = false)
    (fun _ _ _ _ _ _ => trivial) (fun _ _ _ _ _ hb => hb)
    (fun _ _ g p v q d byPoll _ => ⟨by rw [planted]; rfl, rfl⟩)
    (fun _ _ _ _ _ _ => trivial) (.rest rfl trivial) rs
  generalize (begin config p scene).respondAll rs = g at h hcourse ⊢
  cases hcourse with
  | rest hrun _ => simp [isRunning, hrun] at h
  | run hb hw =>
    rw [isRunning_settle_worked hw, decide_eq_true_eq] at h
    rw [settle_worked_of_lt h]
    exact hb

end Cancelling

/-- What stopping the run in flight leaves of a grower: one report more, an empty scene, no
handles, and all else as it was. -/
theorem cancel_eq {g : Grower SceneStore} {run : Run} (h : g.run = some run) :
    g.cancel = { g with
      run := none
      scene := g.scene.map Scene.clear
      emitted := #[]
      outbox := g.outbox.push (.runCancelled (run.segments + run.leaves)) } := by
  have hrunning : g.isRunning = true := by rw [isRunning, h]; rfl
  have hclear : (fun s : SceneStore => Scene.clear (Scene.hideAll s g.emitted.toList))
      = Scene.clear := by
    funext s
    exact SceneStore.clear_hideAll s _
  rw [cancel_of_isRunning hrunning, discardEmissions_eq, stopRun_eq, stopReport, h]
  simp only [hclear]
  simp

/-- **Stopping is clean, final and absorbed.**  Whatever a host has asked of a new grower, with
a scene or without one:

* with a run in flight a stop reports it, once, and leaves an idle grower without symbols,
  without handles and with an empty scene, and everything else is as it was;
* otherwise the grower is idle or complete, and a stop changes nothing;
* a second stop changes nothing;
* and a command that begins a new run does the same with or without the stop before it, but for
  the number of times that the scene was cleared. -/
theorem cancel_respondAll (config : GrowthConfig) (p : Parameters) (scene : Option SceneStore)
    (rs : List Request) :
    let g := (begin config p scene).respondAll rs
    (∀ run, g.run = some run →
      g.cancel = { g with
        run := none
        scene := g.scene.map Scene.clear
        emitted := #[]
        outbox := g.outbox.push (.runCancelled (run.segments + run.leaves)) } ∧
      g.cancel.phase = .idle ∧ g.cancel.expanded = none ∧
      ∀ s, g.cancel.scene = some s → s.records = #[]) ∧
    (g.run = none → (g.phase = .idle ∨ g.phase = .complete) ∧ g.cancel = g) ∧
    g.cancel.cancel = g.cancel ∧
    ∀ c, c = .regenerate ∨ c = .toggleGrowth ∨ c = .toggleRandom →
      g.cancel.apply c = (g.apply c).clearedMore g.isRunning.toNat := by
  intro g
  refine ⟨?_, ?_, cancel_cancel g, ?_⟩
  · intro run hrun
    have hrunning : g.isRunning = true := by rw [isRunning, hrun]; rfl
    obtain ⟨hsymbols, hcompleted⟩ := unfinished_of_isRunning config p scene rs hrunning
    have hcancel := cancel_eq hrun
    refine ⟨hcancel, ?_, ?_, ?_⟩
    · rw [hcancel, phase]
      exact if_neg (Bool.eq_false_iff.mp hcompleted)
    · rw [hcancel, expanded]
      exact hsymbols
    · intro s hs
      rw [hcancel] at hs
      obtain ⟨s', -, rfl⟩ := Option.map_eq_some_iff.mp hs
      rfl
  · intro hrun
    refine ⟨?_, cancel_of_not_isRunning (by rw [isRunning, hrun]; rfl)⟩
    simp only [phase, hrun]
    rcases g.completed with - | -
    · exact Or.inl rfl
    · exact Or.inr rfl
  · intro c hc
    rcases hrunning : g.isRunning with - | -
    · rw [cancel_of_not_isRunning hrunning]
      exact (clearedMore_zero _).symm
    · rw [cancel_of_isRunning hrunning]
      exact apply_stopped g hc

/-- A stop after half of the symbols of a tree of one pass, and the switch of random mode
after it. -/
theorem cancel_respondAll_midway :
    let p := { Parameters.standard with iterations := 1, growthObserved := true }
    let ticks := List.replicate 11 (Request.command (.tick (Duration.ofMilliseconds 3)))
    let g := (begin (GrowthConfig.ofSeed 7) p (some SceneStore.empty)).respondAll
      (.command .regenerate :: ticks)
    g.isRunning = true ∧ g.emitted ≠ #[] ∧
      g.cancel.phase = .idle ∧ g.cancel.emitted = #[] ∧
      g.cancel.apply .toggleRandom = (g.apply .toggleRandom).clearedMore 1 := by
  intro p ticks g
  have hrunning : g.isRunning = true := by decide +kernel
  obtain ⟨run, hrun⟩ := Option.isSome_iff_exists.mp hrunning
  obtain ⟨hstop, -, -, hagain⟩ := cancel_respondAll (GrowthConfig.ofSeed 7) p
    (some SceneStore.empty) (.command .regenerate :: ticks)
  obtain ⟨hcancel, hphase, -, -⟩ := hstop run hrun
  have hsame := hagain .toggleRandom (.inr (.inr rfl))
  have hcount : g.isRunning.toNat = 1 := by rw [hrunning]; rfl
  rw [hcount] at hsame
  refine ⟨hrunning, by decide +kernel, hphase, ?_, hsame⟩
  rw [hcancel]

end Grower

end TurtleTree
