/-
TurtleTree/Proofs/Growth/Yield.lean

What a completed run has reported, and how much of it there is.

A string leaves a segment for every forward move, and if it is led by a forward
move a leaf for every closing bracket, so the emissions of a tree can be counted
on its symbols (`Turtle.countP_isSegment_run`, `Turtle.countP_isLeaf_run`).  A
grower is complete only when it has done all the work of its latest run, so its
last reports are those of the whole run (`exists_reports_of_complete`), and its
store shows what the whole run left behind (`exists_shows_of_complete`).

Main result: for every rule set the reports of a completed run carry the lengths
and the numbers of segments and leaves that the census of the expansion gives,
and the store shows as many (`yield_of_complete`).
-/
import TurtleTree.Proofs.Grammar.Census
import TurtleTree.Proofs.Growth.Pacing
import TurtleTree.Proofs.Growth.Pipeline
import TurtleTree.Proofs.Turtle.Connected

namespace TurtleTree

/-! ### Emissions by symbols -/

namespace Turtle

variable {c : DrawingContext} {t : Turtle}

/-- A symbol leaves a segment if it is a forward move. -/
theorem countP_isSegment_step (hbranches : c.emitBranches = true) (x : Char) :
    (t.step c x).2.toList.countP Emission.isSegment = (isForward x).toNat := by
  obtain ⟨hx, hstep⟩ | ⟨rfl, hstep⟩ | ⟨rfl, hstep⟩ | ⟨hx, -, -, turn, hstep⟩ := step_cases c x
  · rw [hstep, hx, if_pos hbranches]
    rfl
  · rw [hstep]
    rfl
  · rw [hstep]
    rcases t.tip with - | tip <;> rcases c.emitLeaves with - | - <;> rfl
  · rw [hstep, hx]
    rfl

/-- With a tip, a symbol leaves a leaf if it is a closing bracket. -/
theorem countP_isLeaf_step (hleaves : c.emitLeaves = true) {x : Char}
    (ht : x = ']' → t.tip.isSome = true) :
    (t.step c x).2.toList.countP Emission.isLeaf = (x == ']').toNat := by
  obtain ⟨hx, hstep⟩ | ⟨rfl, hstep⟩ | ⟨rfl, hstep⟩ | ⟨-, -, hclose, turn, hstep⟩ :=
    step_cases c x
  · have hclose : (x == ']') = false := by simpa using (ne_bracket_of_isForward hx).2
    rw [hstep, hclose]
    rcases c.emitBranches with - | - <;> rfl
  · rw [hstep]
    rfl
  · obtain ⟨tip, htip⟩ := Option.isSome_iff_exists.mp (ht rfl)
    rw [hstep, htip, if_pos hleaves]
    rfl
  · have hother : (x == ']') = false := by simpa using hclose
    rw [hstep, hother]
    rfl

theorem filterMap_run_cons (x : Char) (s : List Char) :
    (t.run c (x :: s)).1.filterMap id
      = (t.step c x).2.toList ++ ((t.step c x).1.run c s).1.filterMap id := by
  rw [run_cons]
  rcases (t.step c x).2 with - | e <;> rfl

/-- **A segment for every forward move.** -/
theorem countP_isSegment_run (hbranches : c.emitBranches = true) (s : List Char) :
    ((t.run c s).1.filterMap id).countP Emission.isSegment = s.countP isForward := by
  induction s generalizing t with
  | nil => rfl
  | cons x s ih =>
    rw [filterMap_run_cons, List.countP_append, countP_isSegment_step hbranches, ih,
      List.countP_cons, Nat.add_comm]
    rcases isForward x <;> rfl

/-- **A leaf for every closing bracket**, if a forward move leads. -/
theorem countP_isLeaf_run (hleaves : c.emitLeaves = true) {s : List Char}
    (h : (t.tip.isSome || Led s) = true) :
    ((t.run c s).1.filterMap id).countP Emission.isLeaf = s.count ']' := by
  induction s generalizing t with
  | nil => rfl
  | cons x s ih =>
    rw [Led] at h
    -- where the first symbol closes a bracket there is a tip, as nothing else leads
    have htip : x = ']' → t.tip.isSome = true := by
      rintro rfl
      have hclose : isForward ']' = false := rfl
      simpa [hclose] using h
    have hrest : ((t.step c x).1.tip.isSome || Led s) = true := by
      rw [isSome_tip_step]
      rcases ht : t.tip.isSome <;> rcases hx : isForward x <;> simp_all
    rw [filterMap_run_cons, List.countP_append, countP_isLeaf_step hleaves htip, ih hrest,
      List.count_cons, Nat.add_comm]
    rcases x == ']' <;> rfl

end Turtle

/-- Forward moves are of two kinds. -/
theorem countP_isForward (s : List Char) :
    s.countP Turtle.isForward = s.count 'F' + s.count 'G' := by
  induction s with
  | nil => rfl
  | cons x s ih =>
    rw [List.countP_cons, List.count_cons, List.count_cons, ih, Turtle.isForward]
    rcases eq_or_ne x 'F' with rfl | hF
    · simp
      omega
    · rcases eq_or_ne x 'G' with rfl | hG <;> simp [*]
      omega

namespace Parameters

variable {p : Parameters}

/-- The census of the symbols of the tree. -/
def census (p : Parameters) : Census := Census.ofSymbols p.symbols.toList

theorem census_of_mem_catalogue {r : RuleSet} (hr : r ∈ RuleSet.catalogue)
    (hid : r.id = p.ruleSet) : p.census = r.sprout.after p.iterations.toNat := by
  rw [census, symbols_eq, symbolsAfter, ← hid, RuleSet.select_of_mem_catalogue hr]
  exact RuleSet.census_applyTimes_of_mem_catalogue hr _

theorem symbols_of_forall_ne (h : ∀ r ∈ RuleSet.catalogue, r.id ≠ p.ruleSet) :
    p.symbols = RuleSet.commonStart := by
  rw [symbols_eq, symbolsAfter, RuleSet.select_of_forall_ne h]
  exact RuleSet.applyTimes_of_rules_nil rfl _ _

theorem led_symbols (p : Parameters) : Led p.symbols.toList = true := by
  rcases em (∃ r ∈ RuleSet.catalogue, r.id = p.ruleSet) with ⟨r, hr, hid⟩ | hnone
  · rw [symbols_eq, symbolsAfter, ← hid, RuleSet.select_of_mem_catalogue hr]
    exact RuleSet.led_applyTimes_of_mem_catalogue hr _
  · rw [symbols_of_forall_ne fun r hr hid => hnone ⟨r, hr, hid⟩]
    decide +kernel

/-- The passes of a catalogued rule set report the lengths of the census. -/
theorem passReports_of_mem_catalogue {r : RuleSet} (hr : r ∈ RuleSet.catalogue)
    (hid : r.id = p.ruleSet) (n : Nat) :
    p.passReports n = (List.range n).map fun k =>
      .grammarExpanded (UInt32.ofNat (k + 1)) (r.sprout.symbolsAfter (k + 1)) := by
  refine List.map_congr_left fun k _ => ?_
  rw [symbolsAfter, ← hid, RuleSet.select_of_mem_catalogue hr,
    RuleSet.utf8ByteSize_applyTimes_of_mem_catalogue hr,
    RuleSet.length_applyTimes_of_mem_catalogue hr]

end Parameters

namespace DrawingContext

variable {c : DrawingContext}

/-- All work of a run draws all symbols. -/
theorem made_work (c : DrawingContext) : c.made c.parameters.work
    = (Turtle.start.run c c.parameters.symbols.toList).1.filterMap id := by
  have hread : c.parameters.work - c.parameters.iterations.toNat = c.parameters.symbols.length :=
    Nat.add_sub_cancel_left _ _
  rw [made, hread, drawn_length, Interpretation.emissions, Interpretation.finish_begin]

theorem countP_isSegment_made_work (hbranches : c.emitBranches = true) :
    (c.made c.parameters.work).countP Emission.isSegment
      = c.parameters.census.shoots + c.parameters.census.stems := by
  rw [made_work, Turtle.countP_isSegment_run hbranches, countP_isForward]
  rfl

theorem countP_isLeaf_made_work (hleaves : c.emitLeaves = true) :
    (c.made c.parameters.work).countP Emission.isLeaf = c.parameters.census.closings := by
  have hled : (Turtle.start.tip.isSome || Led c.parameters.symbols.toList) = true := by
    rw [Parameters.led_symbols, Bool.or_true]
  rw [made_work, Turtle.countP_isLeaf_run hleaves hled]
  rfl

end DrawingContext

namespace Grower

variable {σ : Type}

/-! ### Completed runs -/

/-- The grower has no tree that is complete, and a scene if `present` says so. -/
structure Unfinished (config : GrowthConfig) (present : Bool) (g : Grower σ) : Prop where
  config : g.config = config
  completed : g.completed = false
  present : g.scene.isSome = present

variable [Scene σ]

/-- The latest report is the start of the run that is about to begin, in a cleared scene. -/
structure Begun (config : GrowthConfig) (present : Bool) (g : Grower σ) : Prop
    extends Unfinished config present g where
  started : ∃ before : List Event, g.outbox.toList = before ++
    [.regenerationStarted g.buffered.ruleSet g.buffered.iterations g.buffered.growthMode]
  cleared : ∀ s ∈ g.scene, ∃ s' : σ, s = Scene.clear s'

variable {config : GrowthConfig} {present : Bool} {g : Grower σ}

theorem config_settle_worked {w : Nat} (hw : w ≤ g.buffered.work) :
    (g.worked w).settle.config = g.config := by
  rcases Nat.lt_or_eq_of_le hw with hlt | rfl
  · rw [settle_worked_of_lt hlt]
    rfl
  · rw [settle_worked_all]
    rfl

theorem isSome_scene_worked (g : Grower σ) (w : Nat) :
    (g.worked w).scene.isSome = g.scene.isSome := Option.isSome_map

theorem begun_planted (g : Grower σ) : g.planted.Begun g.config g.scene.isSome where
  config := by simp only [planted, report, cleanup, discardEmissions_eq, stopRun_eq]
  completed := rfl
  present := by rw [planted_scene, Option.isSome_map]
  started := by
    refine ⟨g.outbox.toList ++ g.stopReport, ?_⟩
    rw [planted_buffered]
    exact planted_outbox g
  cleared := by
    intro s hs
    rw [planted_scene, Option.mem_map] at hs
    obtain ⟨s', -, rfl⟩ := hs
    exact ⟨_, rfl⟩

theorem unfinished_stopped (h : g.Begun config present) (w : Nat) :
    (g.worked w).stopRun.discardEmissions.Unfinished config present where
  config := by
    simp only [discardEmissions_eq, stopRun_eq]
    exact h.config
  completed := (stopped_completed _).trans h.completed
  present := by
    rw [stopped_scene, Option.isSome_map, isSome_scene_worked]
    exact h.present

/-- Every grower keeps to the course of unfinished ones. -/
theorem course_unfinished (h : Course (Unfinished config present) (Begun config present) g)
    (rs : List Request) :
    Course (Unfinished config present) (Begun config present) (g.respondAll rs) := by
  refine Course.respondAll (R := fun _ _ => Unfinished config present)
    (B := fun _ _ => Begun config present) ?_ ?_ ?_ ?_ (m := 0) (k := 0) h rs
  · intro _ _ g p d h
    exact ⟨h.config, h.completed, h.present⟩
  · intro _ _ g p d h
    exact ⟨⟨h.config, h.completed, h.present⟩, h.started, h.cleared⟩
  · intro _ _ g p v q d byPoll h
    obtain ⟨hconfig, hpresent⟩ : g.config = config ∧ g.scene.isSome = present := by
      cases h with
      | rest _ hr => exact ⟨hr.config, hr.present⟩
      | @run g w hb hw =>
        refine ⟨(config_settle_worked hw).trans hb.config, ?_⟩
        rw [(settle_scene_emitted _).1, isSome_scene_worked]
        exact hb.present
    have hnoticed : ((g.reset p v q d).noticed byPoll).config = config := by
      cases byPoll <;> exact hconfig
    have hbegun := begun_planted ((g.reset p v q d).noticed byPoll)
    rw [hnoticed, noticed_scene] at hbegun
    exact hpresent ▸ hbegun
  · intro _ _ g w h _
    exact unfinished_stopped h w

/-- **The end of a completed run.**  A grower that is complete has done all work of its latest
run.  Its latest reports are the start of the run, all its passes, its emissions and its end,
with the numbers of what the whole run left behind, and its scene is a cleared one that has
taken all of this in. -/
theorem exists_reports_of_complete
    (h : Course (Unfinished config present) (Begun config present) g)
    (hphase : g.phase = .complete) :
    g.config = config ∧ g.scene.isSome = present ∧
    (∃ (before : List Event) (handles : List EmissionHandle),
      g.outbox.toList = before
        ++ .regenerationStarted g.buffered.ruleSet g.buffered.iterations g.buffered.growthMode
          :: g.buffered.passReports g.buffered.iterations.toNat
        ++ handles.map Event.emitted
        ++ [.generationCompleted ((g.context.made g.buffered.work).countP Emission.isSegment)
          ((g.context.made g.buffered.work).countP Emission.isLeaf)]) ∧
    ∀ s ∈ g.scene, ∃ s' : σ,
      s = (Scene.addAll (Scene.clear s') (g.context.made g.buffered.work)).2 := by
  cases h with
  | rest hrun hr =>
    simp [phase, hrun, hr.completed] at hphase
  | @run g w hb hw =>
    -- a run that has work left is not complete
    rcases Nat.lt_or_eq_of_le hw with hlt | rfl
    · rw [settle_worked_of_lt hlt] at hphase
      exact absurd hphase (phase_ne_complete rfl)
    · obtain ⟨before, hbefore⟩ := hb.started
      have hpasses : min g.buffered.work g.buffered.iterations.toNat
          = g.buffered.iterations.toNat := Nat.min_eq_right (Nat.le_add_right _ _)
      rw [settle_worked_all]
      refine ⟨hb.config, (isSome_scene_worked g _).trans hb.present,
        ⟨before, Scene.names? g.scene (g.context.made g.buffered.work), ?_⟩, ?_⟩
      · simp [worked, workReports, hbefore, hpasses, context]
      · intro s hs
        obtain ⟨t, ht, rfl⟩ := Option.mem_map.mp hs
        obtain ⟨s', rfl⟩ := hb.cleared t ht
        exact ⟨s', rfl⟩

/-- A complete grower with a store shows as many segments and leaves as it reports. -/
theorem exists_shows_of_complete {g : Grower SceneStore}
    (h : Course (Unfinished config true) (Begun config true) g) (hphase : g.phase = .complete) :
    ∃ s : SceneStore, g.scene = some s ∧ s.Shows (g.context.made g.buffered.work) := by
  obtain ⟨-, hpresent, -, hscene⟩ := exists_reports_of_complete h hphase
  obtain ⟨s, hs⟩ := Option.isSome_iff_exists.mp hpresent
  obtain ⟨s', rfl⟩ := hscene s hs
  exact ⟨_, hs, SceneStore.shows_addAll (SceneStore.records_clear s') _⟩

/-- A new grower has no tree. -/
theorem course_begin (config : GrowthConfig) (p : Parameters) (scene : Option σ)
    (rs : List Request) :
    Course (Unfinished config scene.isSome) (Begun config scene.isSome)
      ((begin config p scene).respondAll rs) := by
  have hstart : (begin config p scene).Unfinished config scene.isSome := ⟨rfl, rfl, rfl⟩
  exact course_unfinished (.rest rfl hstart) rs

/-- The numbers that a complete grower reports are those of its symbols. -/
theorem last_report_of_complete
    (h : Course (Unfinished config present) (Begun config present) g)
    (hbranches : config.emitBranches = true) (hleaves : config.emitLeaves = true)
    (hphase : g.phase = .complete) :
    ∃ (before : List Event) (handles : List EmissionHandle),
      g.outbox.toList = before
        ++ .regenerationStarted g.buffered.ruleSet g.buffered.iterations g.buffered.growthMode
          :: g.buffered.passReports g.buffered.iterations.toNat
        ++ handles.map Event.emitted
        ++ [.generationCompleted (g.buffered.census.shoots + g.buffered.census.stems)
          g.buffered.census.closings] := by
  obtain ⟨rfl, -, hreports, -⟩ := exists_reports_of_complete h hphase
  have hsegments : (g.context.made g.buffered.work).countP Emission.isSegment
      = g.buffered.census.shoots + g.buffered.census.stems :=
    DrawingContext.countP_isSegment_made_work (c := g.context) hbranches
  have hclosings : (g.context.made g.buffered.work).countP Emission.isLeaf
      = g.buffered.census.closings :=
    DrawingContext.countP_isLeaf_made_work (c := g.context) hleaves
  rw [hsegments, hclosings] at hreports
  exact hreports

/-- **The size of a tree is known from its parameters.**  For a catalogued rule set and any
number of passes the census of the expansion is given by that of what `F` becomes, each pass
makes the string longer, and every closing bracket has a forward move before it.  So a
completed run with both switches on, over a scene of any kind or without one, reports these
lengths and ends with a segment for every forward move and a leaf for every closing bracket,
and a store then shows as many as are reported.  Outside the catalogue it is one segment and
no leaf. -/
theorem yield_of_complete :
    (∀ r ∈ RuleSet.catalogue, ∀ n : Nat,
      Census.ofSymbols (r.applyTimes n r.start).toList = r.sprout.after n ∧
      r.sprout.shoots - 1 ∣ r.sprout.closings * (r.sprout.shoots ^ n - 1) ∧
      (r.applyTimes n r.start).length < (r.applyTimes (n + 1) r.start).length ∧
      ∀ i, (r.applyTimes n r.start).toList[i]? = some ']' →
        ∃ x ∈ (r.applyTimes n r.start).toList.take i, Turtle.isForward x = true) ∧
    (∀ (r : RuleSet) (n : UInt32),
      (Expansion.begin r r.start n).finish = r.applyTimes n.toNat r.start) ∧
    (∀ (σ : Type) [Scene σ] (config : GrowthConfig) (p : Parameters) (scene : Option σ)
      (rs : List Request), config.emitBranches = true → config.emitLeaves = true →
      let g := (begin config p scene).respondAll rs
      let n := g.buffered.iterations.toNat
      g.phase = .complete →
      (∀ r ∈ RuleSet.catalogue, r.id = g.buffered.ruleSet →
        ∃ (before : List Event) (handles : List EmissionHandle),
          g.outbox.toList = before
            ++ .regenerationStarted r.id g.buffered.iterations g.buffered.growthMode
              :: (List.range n).map (fun k =>
                .grammarExpanded (UInt32.ofNat (k + 1)) (r.sprout.symbolsAfter (k + 1)))
            ++ handles.map Event.emitted
            ++ [.generationCompleted (r.sprout.shoots ^ n + r.sprout.stemsAfter n)
              (r.sprout.closingsAfter n)]) ∧
      ((∀ r ∈ RuleSet.catalogue, r.id ≠ g.buffered.ruleSet) →
        g.outbox.back? = some (.generationCompleted 1 0))) ∧
    (∀ (config : GrowthConfig) (p : Parameters) (store : SceneStore) (rs : List Request),
      let g := (begin config p (some store)).respondAll rs
      g.phase = .complete → ∃ s : SceneStore, g.scene = some s ∧
        g.outbox.back?
          = some (.generationCompleted s.activeSegments.length s.activeLeaves.length)) := by
  refine ⟨fun r hr n => ⟨RuleSet.census_applyTimes_of_mem_catalogue hr n,
      r.sprout.dvd_closings n, RuleSet.length_applyTimes_lt_of_mem_catalogue hr n,
      fun i hi => exists_forward_of_led (RuleSet.led_applyTimes_of_mem_catalogue hr n) hi⟩,
    fun r n => Expansion.finish_begin r r.start n, ?_, ?_⟩
  · intro σ _ config p scene rs hbranches hleaves g n hphase
    obtain ⟨before, handles, hreports⟩ :=
      last_report_of_complete (course_begin config p scene rs) hbranches hleaves hphase
    change g.outbox.toList = _ at hreports
    refine ⟨fun r hr hid => ⟨before, handles, ?_⟩, fun hnone => ?_⟩
    · rw [hreports, Parameters.census_of_mem_catalogue hr hid,
        Parameters.passReports_of_mem_catalogue hr hid, hid]
      rfl
    · have hcensus : g.buffered.census = ⟨1, 0, 0, 1⟩ := by
        rw [Parameters.census, Parameters.symbols_of_forall_ne hnone]
        decide +kernel
      rw [← Array.getLast?_toList, hreports, hcensus, List.getLast?_append]
      rfl
  · intro config p store rs g hphase
    have hcourse := course_begin config p (some store) rs
    obtain ⟨-, -, ⟨before, handles, hreports⟩, -⟩ := exists_reports_of_complete hcourse hphase
    obtain ⟨s, hs, hshows⟩ := exists_shows_of_complete hcourse hphase
    refine ⟨s, hs, ?_⟩
    rw [hshows.length_activeSegments, hshows.length_activeLeaves, ← Array.getLast?_toList,
      hreports, List.getLast?_append]
    rfl

/-- A pass of the seventh rule set, made at once after a stepwise run was left in flight. -/
theorem yield_regrown :
    let p := { Parameters.standard with ruleSet := ⟨7⟩, iterations := 1 }
    let requests : List Request :=
      [.command .toggleGrowth, .command (.tick (Duration.ofMilliseconds 3)), .command .toggleGrowth]
    let g := (begin (GrowthConfig.ofSeed 7) p (some SceneStore.empty)).respondAll requests
    g.phase = .complete ∧
      (∃ (before : List Event) (handles : List EmissionHandle),
        g.outbox.toList = before ++ [.regenerationStarted ⟨7⟩ 1 .instant, .grammarExpanded 1 18]
          ++ handles.map Event.emitted ++ [.generationCompleted 7 3]) ∧
      ∃ s : SceneStore, g.scene = some s ∧
        g.outbox.back?
          = some (.generationCompleted s.activeSegments.length s.activeLeaves.length) := by
  intro p requests g
  have hphase : g.phase = .complete := by decide +kernel
  have hrule : g.buffered.ruleSet = ⟨7⟩ := by decide +kernel
  have hpasses : g.buffered.iterations = 1 := by decide +kernel
  have hmode : g.buffered.growthMode = .instant := by decide +kernel
  have hid : (RuleSet.select ⟨7⟩).id = ⟨7⟩ := by decide +kernel
  have hsprout : (RuleSet.select ⟨7⟩).sprout = ⟨4, 3, 3, 18⟩ := by decide +kernel
  obtain ⟨-, -, hreports, hshown⟩ := yield_of_complete
  have hend := hshown (GrowthConfig.ofSeed 7) p SceneStore.empty requests hphase
  have hcatalogue := (hreports SceneStore (GrowthConfig.ofSeed 7) p (some SceneStore.empty)
    requests rfl rfl hphase).1 (RuleSet.select ⟨7⟩) (by decide +kernel)
  have hg : (begin (GrowthConfig.ofSeed 7) p (some SceneStore.empty)).respondAll requests = g := rfl
  rw [hg] at hcatalogue hend
  clear_value g
  obtain ⟨before, handles, hlog⟩ := hcatalogue (hid.trans hrule.symm)
  rw [hpasses, hmode, hid, hsprout] at hlog
  exact ⟨hphase, ⟨before, handles, hlog⟩, hend⟩

end Grower

end TurtleTree
