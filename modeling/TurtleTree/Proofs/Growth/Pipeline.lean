/-
TurtleTree/Proofs/Growth/Pipeline.lean

A grower with a store shows what the pure pipeline computes.

The pipeline has no state: the parameters of the last regeneration give the
symbols, and the turtle draws a number of them with the table and the material
at hand.  `Grower.ShowsPipeline` says phase by phase what a grower and its store
have to show for that.

Main result: after any sequence of requests a new grower with an empty store
shows what the pipeline computes (`showsPipeline_respondAll`).  Neither edits of
the live parameters in mid-run, nor a poll that restarts a run within a tick,
nor the order of commands leaves a trace in the picture.
-/
import TurtleTree.Proofs.Growth.Course
import TurtleTree.Proofs.Scene.Contents

namespace TurtleTree

/-- All symbols drawn: the emissions of the whole interpretation. -/
theorem DrawingContext.drawn_length (c : DrawingContext) (symbols : String) :
    c.drawn symbols symbols.length = (Interpretation.begin c symbols).emissions := by
  rw [DrawingContext.drawn, Interpretation.emissions, Interpretation.finish,
    ← String.length_toList]
  rfl

namespace Grower

/-- The store shows these emissions and nothing else, and the handles that the grower
keeps lead to them, in order. -/
structure Tracks (g : Grower SceneStore) (s : SceneStore) (es : List Emission) : Prop where
  shows : s.Shows es
  handles : g.emitted.toList.map s.emission? = es.map some

/-- The grower and its store are where the pure pipeline has them in the phase at hand. -/
def ShowsPipeline (g : Grower SceneStore) (s : SceneStore) : Prop :=
  match g.phase with
  | .idle => g.expanded = none ∧ g.Tracks s []
  | .expanding completed iterations =>
    iterations = g.buffered.iterations ∧ completed < iterations ∧ g.expanded = none
      ∧ g.Tracks s []
  | .interpreting interpreted total =>
    total = g.buffered.symbols.length ∧ interpreted < total
      ∧ g.expanded = some g.buffered.symbols
      ∧ g.Tracks s (g.context.drawn g.buffered.symbols interpreted)
  | .complete =>
    g.expanded = some g.buffered.symbols
      ∧ g.Tracks s (Interpretation.begin g.context g.buffered.symbols).emissions

/-! ### Before the first unit of work -/

/-- The grower has an empty store and shows no tree. -/
structure Cleared (g : Grower SceneStore) : Prop where
  emitted : g.emitted = #[]
  lastSymbols : g.lastSymbols = none
  completed : g.completed = false
  store : ∃ s : SceneStore, g.scene = some s ∧ s.records = #[]

theorem cleared_planted {g : Grower SceneStore} (h : ∃ s, g.scene = some s) (p : Parameters)
    (v : VarianceTable) (q : VarianceProvider) (d : Duration) (byPoll : Bool) :
    ((g.reset p v q d).noticed byPoll).planted.Cleared := by
  obtain ⟨s, hs⟩ := h
  have hscene := planted_reset_scene g p v q d byPoll
  rw [hs, Option.map_some] at hscene
  exact ⟨planted_emitted _, rfl, rfl, _, hscene, SceneStore.records_clear _⟩

theorem cleared_stopped {g : Grower SceneStore} (h : g.Cleared) (w : Nat) :
    (g.worked w).stopRun.discardEmissions.Cleared := by
  obtain ⟨-, hsymbols, hcompleted, s, hs, -⟩ := h
  exact ⟨stopped_emitted _, (stopped_lastSymbols _).trans hsymbols,
    (stopped_completed _).trans hcompleted, _, stopped_worked_scene hs w,
    SceneStore.records_clear _⟩

/-- Every grower that starts with a store keeps to the course of cleared growers. -/
theorem course_cleared {g : Grower SceneStore} (h : Course Cleared Cleared g)
    (rs : List Request) : Course Cleared Cleared (g.respondAll rs) := by
  refine Course.respondAll (R := fun _ _ => Cleared) (B := fun _ _ => Cleared) ?_ ?_ ?_ ?_
    (m := 0) (k := 0) h rs
  · intro _ _ g p d h
    exact ⟨h.emitted, h.lastSymbols, h.completed, h.store⟩
  · intro _ _ g p d h
    exact ⟨h.emitted, h.lastSymbols, h.completed, h.store⟩
  · intro _ _ g p v q d byPoll h
    refine cleared_planted ?_ p v q d byPoll
    cases h with
    | rest _ hr => exact hr.store.imp fun s hs => hs.1
    | run hb _ =>
      obtain ⟨s, hs, -⟩ := hb.store
      exact ⟨_, (settle_scene_emitted _).1.trans (worked_scene hs _)⟩
  · intro _ _ g w h _
    exact cleared_stopped h w

/-! ### After any number of units of work -/

/-- What was drawn is what the store shows, and the handles lead to it. -/
theorem tracks_worked {g : Grower SceneStore} (h : g.Cleared) {w : Nat} {s : SceneStore}
    (hs : (g.worked w).scene = some s) (hcreated : s.created < 2 ^ 64) :
    (g.worked w).Tracks s (g.context.made w) := by
  obtain ⟨s₀, hs₀, hrecords⟩ := h.store
  have hstore : (Scene.addAll s₀ (g.context.made w)).2 = s :=
    Option.some.inj ((worked_scene hs₀ w).symm.trans hs)
  subst hstore
  refine ⟨SceneStore.shows_addAll hrecords _, ?_⟩
  have hhandles : (g.worked w).emitted.toList = (Scene.addAll s₀ (g.context.made w)).1 := by
    simp [worked_emitted hs₀, h.emitted]
  rw [hhandles]
  exact SceneStore.emission?_addAll s₀ _ hcreated

theorem showsPipeline_worked {g : Grower SceneStore} (h : g.Cleared) {w : Nat}
    (hw : w ≤ g.buffered.work) {s : SceneStore} (hs : (g.worked w).settle.scene = some s)
    (hcreated : s.created < 2 ^ 64) : (g.worked w).settle.ShowsPipeline s := by
  rcases Nat.lt_or_eq_of_le hw with hlt | rfl
  · rw [settle_worked_of_lt hlt] at hs ⊢
    have htracks := tracks_worked h hs hcreated
    rcases Nat.lt_or_ge w g.buffered.iterations.toNat with hpass | hpass
    -- passes are being made
    · have hstage : (Run.after g.context w).stage = .expanding _ := Stage.after_of_lt hpass
      have hmade : g.context.made w = [] := DrawingContext.made_of_le (Nat.le_of_lt hpass)
      have hphase : (g.worked w).phase
          = .expanding (UInt32.ofNat w) g.buffered.iterations := by
        show (Run.after g.context w).stage.phase = _
        rw [hstage]
        rfl
      have hexpanded : (g.worked w).expanded = none := by
        simp only [expanded, worked, hstage]
      have hcount : UInt32.ofNat w < g.buffered.iterations := by
        have hbound := g.buffered.iterations.toNat_lt
        rw [UInt32.lt_iff_toNat_lt, UInt32.toNat_ofNat', Nat.mod_eq_of_lt (by omega)]
        exact hpass
      rw [hmade] at htracks
      simp only [ShowsPipeline, hphase]
      exact ⟨rfl, hcount, hexpanded, htracks⟩
    -- symbols are being read
    · have hstage : (Run.after g.context w).stage = .interpreting _ := Stage.after_of_le hpass
      have hphase : (g.worked w).phase = .interpreting (w - g.buffered.iterations.toNat)
          g.buffered.symbols.length := by
        show (Run.after g.context w).stage.phase = _
        rw [hstage]
        rfl
      have hexpanded : (g.worked w).expanded = some g.buffered.symbols := by
        simp only [expanded, worked, hstage]
        rfl
      simp only [ShowsPipeline, hphase]
      refine ⟨rfl, ?_, hexpanded, htracks⟩
      rw [Parameters.work] at hlt
      omega
  -- all symbols were read
  · have hread : g.buffered.work - g.buffered.iterations.toNat = g.buffered.symbols.length :=
      Nat.add_sub_cancel_left _ _
    have hmade : g.context.made g.buffered.work
        = (Interpretation.begin g.context g.buffered.symbols).emissions := by
      rw [← DrawingContext.drawn_length, ← hread]
      rfl
    rw [settle_worked_all] at hs ⊢
    have htracks := tracks_worked h hs hcreated
    rw [hmade] at htracks
    exact ⟨rfl, htracks.shows, htracks.handles⟩

/-- A grower at rest shows nothing. -/
theorem showsPipeline_rest {g : Grower SceneStore} (hrun : g.run = none) (h : g.Cleared)
    {s : SceneStore} (hs : g.scene = some s) : g.ShowsPipeline s := by
  obtain ⟨hemitted, hsymbols, hcompleted, s₀, hs₀, hrecords⟩ := h
  obtain rfl : s₀ = s := Option.some.inj (hs₀.symm.trans hs)
  have hphase : g.phase = .idle := by simp [phase, hrun, hcompleted]
  have hexpanded : g.expanded = none := by simp only [expanded, hrun, hsymbols]
  simp only [ShowsPipeline, hphase]
  exact ⟨hexpanded, SceneStore.shows_of_records (by simp [hrecords]), by simp [hemitted]⟩

/-- **The pipeline is refined.**  Whatever a host asks of a new grower with an empty store,
the symbols, the handles and the contents of the store are those that the parameters of the
last regeneration, the table, the material and the phase determine, as long as fewer than
`2 ^ 64` emissions were taken in. -/
theorem showsPipeline_respondAll (config : GrowthConfig) (p : Parameters) (rs : List Request) :
    ∃ s : SceneStore, ((begin config p (some SceneStore.empty)).respondAll rs).scene = some s ∧
      (s.created < 2 ^ 64 →
        ((begin config p (some SceneStore.empty)).respondAll rs).ShowsPipeline s) := by
  have hstart : (begin config p (some SceneStore.empty)).Cleared := ⟨rfl, rfl, rfl, _, rfl, rfl⟩
  have hcourse := course_cleared (.rest rfl hstart) rs
  generalize (begin config p (some SceneStore.empty)).respondAll rs = g at hcourse ⊢
  cases hcourse with
  | @rest g hrun hr =>
    obtain ⟨s, hs, -⟩ := hr.store
    exact ⟨s, hs, fun _ => showsPipeline_rest hrun hr hs⟩
  | @run g w hb hw =>
    obtain ⟨s, hs, -⟩ := hb.store
    have ht := (settle_scene_emitted (g.worked w)).1.trans (worked_scene hs w)
    exact ⟨_, ht, fun hcreated => showsPipeline_worked hb hw ht hcreated⟩

/-- A run stopped and begun anew, looked at after half of its symbols. -/
theorem showsPipeline_midway :
    let ticks := fun n => List.replicate n
      (Request.command (.tick (Duration.ofMilliseconds 3)))
    let g := (begin (GrowthConfig.ofSeed 7) { Parameters.standard with iterations := 1 }
      (some SceneStore.empty)).respondAll
        (.command .toggleGrowth :: ticks 15 ++ .cancel :: .command .regenerate :: ticks 11)
    g.phase = .interpreting 10 20 ∧
      ∃ s : SceneStore, g.scene = some s ∧ s.created < 2 ^ 64 ∧ g.ShowsPipeline s := by
  intro ticks g
  obtain ⟨s, hs, hshows⟩ : ∃ s : SceneStore, g.scene = some s ∧
      (s.created < 2 ^ 64 → g.ShowsPipeline s) := showsPipeline_respondAll _ _ _
  have hphase : g.phase = .interpreting 10 20 := by decide +kernel
  have hcount : g.scene.map SceneStore.created = some 11 := by decide +kernel
  clear_value g
  have hcreated : s.created = 11 := by
    rw [hs] at hcount
    exact Option.some.inj hcount
  have hfew : s.created < 2 ^ 64 := by omega
  exact ⟨hphase, s, hs, hfew, hshows hfew⟩

end Grower

end TurtleTree
