/-
TurtleTree/Proofs/Growth/Masking.lean

Emission switches hide a kind of emission from the scene, and nothing else.

Two growers are asked the same, one with both switches on and one with others.  Their
scenes, their handles and their counts differ, but none of these decides what a grower does
next.  What does is the same in both: the parameters, what was drawn from the seed, and the
stage of the run with its turtle, because a symbol moves the turtle alike under all
switches (`Reading.advance_switched`).  So the two stay in step (`Grower.Masked`), and
the store of the one always holds what the store of the other holds of the kinds that are
switched on (`SceneStore.Masks`).

Main result: `masked_respondAll`.
-/
import TurtleTree.Proofs.Growth.Lockstep
import TurtleTree.Proofs.Growth.Work
import TurtleTree.Proofs.Scene.Contents
import TurtleTree.Proofs.Turtle.Masking

namespace TurtleTree

/-! ### Stores -/

namespace SceneStore

variable {b l : Bool} {s s' : SceneStore}

/-- The second store holds what the first one holds of the kinds that are switched on. -/
def Masks (b l : Bool) (s s' : SceneStore) : Prop :=
  s'.records.toList = s.records.toList.filter fun r => r.emission.shown b l

theorem masks_of_records_eq_empty (h : s.records = #[]) : Masks b l s s := by
  rw [Masks, h]
  rfl

/-- An emission of a kind that is switched on is kept by both. -/
theorem Masks.keep (h : Masks b l s s') {e : Emission} (he : e.shown b l = true) :
    Masks b l (s.keep e) (s'.keep e) := by
  rw [Masks] at h
  simp [Masks, SceneStore.keep, h, he]

/-- One of a kind that is switched off is kept by the first alone. -/
theorem Masks.keep_left (h : Masks b l s s') {e : Emission} (he : e.shown b l = false) :
    Masks b l (s.keep e) s' := by
  rw [Masks] at h
  simp [Masks, SceneStore.keep, h, he]

theorem masks_clear (s s' : SceneStore) : Masks b l (Scene.clear s) (Scene.clear s') := rfl

/-- Let `f` pick out one kind.  Leaving out other kinds does not change what it picks, and it
picks nothing where its own kind is left out. -/
theorem filterMap_filter_of_kind {α : Type} {p : StoredEmission → Bool}
    {f : StoredEmission → Option α} {on : Bool} (hp : ∀ r, (f r).isSome → p r = on)
    (rs : List StoredEmission) :
    (rs.filter p).filterMap f = if on then rs.filterMap f else [] := by
  induction rs with
  | nil => cases on <;> rfl
  | cons r rs ih =>
    rcases hf : f r with - | x
    · have hskip : ((r :: rs).filter p).filterMap f = (rs.filter p).filterMap f := by
        cases hpr : p r <;> simp [hpr, hf]
      rw [hskip, ih, List.filterMap_cons_none hf]
    · have hpr : p r = on := hp r (by rw [hf]; rfl)
      cases on with
      | false => rw [List.filter_cons_of_neg (by simp [hpr]), ih]; rfl
      | true =>
        rw [List.filter_cons_of_pos hpr, List.filterMap_cons_some hf, ih,
          List.filterMap_cons_some hf]
        rfl

/-- Both stores show alike what is left. -/
theorem Masks.active (h : Masks b l s s') :
    s'.active = s.active.filter fun r => r.emission.shown b l := by
  rw [Masks] at h
  rw [SceneStore.active, h, List.filter_comm, SceneStore.active]

theorem Masks.activeSegments (h : Masks b l s s') :
    s'.activeSegments = if b then s.activeSegments else [] := by
  rw [SceneStore.activeSegments, h.active, SceneStore.activeSegments]
  refine filterMap_filter_of_kind ?_ _
  rintro ⟨e | e, a⟩ hr
  · rfl
  · cases hr

theorem Masks.activeLeaves (h : Masks b l s s') :
    s'.activeLeaves = if l then s.activeLeaves else [] := by
  rw [SceneStore.activeLeaves, h.active, SceneStore.activeLeaves]
  refine filterMap_filter_of_kind ?_ _
  rintro ⟨e | e, a⟩ hr
  · cases hr
  · rfl

end SceneStore

/-! ### Growers -/

/-- Two runs of the same parameters are at the same unit of work.  What they have counted may
differ. -/
inductive Run.SameWork : Run → Run → Prop
  | intro (p : Parameters) (stage : Stage) (segments leaves segments' leaves' : Nat) :
      SameWork ⟨p, stage, segments, leaves⟩ ⟨p, stage, segments', leaves'⟩

/-- An emission changes the counts only. -/
theorem Run.SameWork.count {r r' : Run} (h : SameWork r r') (e : Emission) :
    SameWork (r.count e) r' ∧ SameWork (r.count e) (r'.count e) := by
  obtain ⟨p, stage, _, _, _, _⟩ := h
  cases e <;> exact ⟨.intro .., .intro ..⟩

/-- The configuration with other emission switches. -/
def GrowthConfig.switched (c : GrowthConfig) (branches leaves : Bool) : GrowthConfig :=
  { c with emitBranches := branches, emitLeaves := leaves }

namespace Grower

/-- The first grower has both switches on and the second has others.  They differ at most in
what the switches hide: in their scenes and handles, in what they count and in what they
report. -/
inductive Masked (b l : Bool) : Grower SceneStore → Grower SceneStore → Prop
  | intro {g : Grower SceneStore} {scene : Option SceneStore} {run : Option Run}
      (emitted : Array EmissionHandle) (outbox : Array Event) :
      g.config = g.config.switched true true →
      Option.Rel (SceneStore.Masks b l) g.scene scene → Option.Rel Run.SameWork g.run run →
      Masked b l g { g with
        config := g.config.switched b l
        scene
        emitted
        run
        outbox }

namespace Masked

variable {b l : Bool} {g g' : Grower SceneStore}

/-! ### Ways of writing -/

theorem report (h : Masked b l g g') (e e' : Event) :
    Masked b l (g.report e) (g'.report e') := by
  obtain ⟨emitted, outbox, hon, hscene, hrun⟩ := h
  exact .intro (g := g.report e) emitted (outbox.push e') hon hscene hrun

theorem discardEmissions (h : Masked b l g g') :
    Masked b l g.discardEmissions g'.discardEmissions := by
  obtain ⟨emitted, outbox, hon, hscene, hrun⟩ := h
  obtain ⟨_, _, _, scene, _, _, _, _, _, _, _, _, _⟩ := g
  rw [discardEmissions_eq, discardEmissions_eq]
  cases hscene with
  | none => exact .intro #[] outbox hon .none hrun
  | some _ => exact .intro #[] outbox hon (.some (SceneStore.masks_clear _ _)) hrun

/-- An emission of a kind that is switched on is taken in by both scenes. -/
theorem emit (h : Masked b l g g') {e : Emission} (he : e.shown b l = true) :
    Masked b l (g.emit e) (g'.emit e) := by
  obtain ⟨emitted, outbox, hon, hscene, hrun⟩ := h
  obtain ⟨_, _, _, scene, _, _, _, _, _, _, _, _, _⟩ := g
  cases hscene with
  | none => exact .intro emitted outbox hon .none hrun
  | some hs =>
    simp only [Grower.emit, SceneStore.add_snd]
    exact .intro _ _ hon (.some (hs.keep he)) hrun

/-- One of a kind that is switched off is taken in by the first scene alone. -/
theorem emit_left (h : Masked b l g g') {e : Emission} (he : e.shown b l = false) :
    Masked b l (g.emit e) g' := by
  obtain ⟨emitted, outbox, hon, hscene, hrun⟩ := h
  obtain ⟨_, _, _, scene, _, _, _, _, _, _, _, _, _⟩ := g
  cases hscene with
  | none => exact .intro emitted outbox hon .none hrun
  | some hs =>
    simp only [Grower.emit, SceneStore.add_snd]
    exact .intro (g := ⟨_, _, _, _, _, _, _, _, _, _, _, _, _⟩) emitted outbox hon
      (.some (hs.keep_left he)) hrun

/-! ### Runs -/

theorem setRun (h : Masked b l g g') {run run' : Option Run}
    (hrun : Option.Rel Run.SameWork run run') :
    Masked b l { g with run } { g' with run := run' } := by
  obtain ⟨emitted, outbox, hon, hscene, -⟩ := h
  exact .intro (g := { g with run }) emitted outbox hon hscene hrun

theorem stopRun (h : Masked b l g g') : Masked b l g.stopRun g'.stopRun := by
  obtain ⟨emitted, outbox, hon, hscene, hrun⟩ := h
  obtain ⟨_, _, _, _, _, _, _, _, run, _, _, _, _⟩ := g
  cases hrun with
  | none => exact .intro emitted outbox hon hscene .none
  | some hr => exact .intro emitted _ hon hscene .none

theorem settle (h : Masked b l g g') : Masked b l g.settle g'.settle := by
  obtain ⟨emitted, outbox, hon, hscene, hrun⟩ := h
  obtain ⟨_, _, _, _, _, _, _, _, run, _, _, _, _⟩ := g
  cases hrun with
  | none => exact .intro emitted outbox hon hscene .none
  | some hr =>
    obtain ⟨p, e | r, m, k, m', k'⟩ := hr
    · exact .intro emitted outbox hon hscene (.some (.intro p (.expanding e) m k m' k'))
    · rcases hr : r.isExhausted with - | -
      · simp only [Grower.settle, hr, Bool.false_eq_true, if_false]
        exact .intro emitted outbox hon hscene (.some (.intro p (.interpreting r) m k m' k'))
      · simp only [Grower.settle, hr, if_true]
        exact .intro emitted _ hon hscene .none

/-- The two contexts differ in their switches. -/
theorem drawingContext (h : Masked b l g g') (run run' : Run)
    (hrun : run'.parameters = run.parameters) :
    g.drawingContext run = (g.drawingContext run).switched true true ∧
      g'.drawingContext run' = (g.drawingContext run).switched b l := by
  obtain ⟨emitted, outbox, hon, -, -⟩ := h
  have hbranches : g.config.emitBranches = true := congrArg GrowthConfig.emitBranches hon
  have hleaves : g.config.emitLeaves = true := congrArg GrowthConfig.emitLeaves hon
  refine ⟨?_, ?_⟩
  · simp only [Grower.drawingContext, DrawingContext.switched, hbranches, hleaves]
  · simp only [Grower.drawingContext, DrawingContext.switched, GrowthConfig.switched, hrun]

/-- A symbol is read by the same turtle, and what it leaves behind may be hidden. -/
theorem advance_interpreting (h : Masked b l g g') {p : Parameters} {r : Reading}
    {m k m' k' : Nat} (hg : g.run = some ⟨p, .interpreting r, m, k⟩)
    (hg' : g'.run = some ⟨p, .interpreting r, m', k'⟩) : Masked b l g.advance g'.advance := by
  obtain ⟨hfull, hpart⟩ := h.drawingContext ⟨p, .interpreting r, m, k⟩
    ⟨p, .interpreting r, m', k'⟩ rfl
  have hread := r.advance_switched (b := b) (l := l)
    (c := g.drawingContext ⟨p, .interpreting r, m, k⟩)
  rw [← hfull, ← hpart] at hread
  rcases hr : r.advance (g.drawingContext ⟨p, .interpreting r, m, k⟩) with ⟨q, item⟩
  rw [hr] at hread
  have hstage : Run.SameWork ⟨p, .interpreting q, m, k⟩ ⟨p, .interpreting q, m', k'⟩ :=
    .intro p (.interpreting q) m k m' k'
  rw [advance_of_interpreting hg rfl hr]
  rcases item with - | e
  · rw [advance_of_interpreting hg' rfl hread]
    exact (h.setRun (.some hstage)).settle
  · obtain ⟨hleft, hboth⟩ := hstage.count e
    simp only [Option.filter_some] at hread
    rcases he : e.shown b l with - | -
    · rw [he, if_neg Bool.false_ne_true] at hread
      rw [advance_of_interpreting hg' rfl hread]
      exact ((h.setRun (.some hleft)).emit_left he).settle
    · rw [he, if_pos rfl] at hread
      rw [advance_of_interpreting hg' rfl hread]
      exact ((h.setRun (.some hboth)).emit he).settle

/-- Both runs are at the same unit of work. -/
theorem advance (h : Masked b l g g') : Masked b l g.advance g'.advance := by
  have hrun : Option.Rel Run.SameWork g.run g'.run := by
    obtain ⟨emitted, outbox, -, -, hrun⟩ := h
    exact hrun
  rcases hg : g.run with - | run <;> rcases hg' : g'.run with - | run' <;> rw [hg, hg'] at hrun
  · rw [advance_of_idle hg, advance_of_idle hg']
    exact h
  · cases hrun
  · cases hrun
  · obtain ⟨p, e | r, m, k, m', k'⟩ : Run.SameWork run run' := by
      cases hrun with
      | some hr => exact hr
    · rcases he : e.advance? with - | e'
      · simp only [Grower.advance, hg, hg', he]
        exact (h.setRun (.some (.intro p _ m k m' k'))).settle
      · rw [advance_of_expanding hg rfl he, advance_of_expanding hg' rfl he]
        exact ((h.setRun (.some (.intro p _ m k m' k'))).report _ _).settle
    · exact h.advance_interpreting hg hg'

/-! ### Requests -/

theorem cleanup (h : Masked b l g g') : Masked b l g.cleanup g'.cleanup := by
  have hdiscard := h.discardEmissions
  simp only [Grower.cleanup]
  generalize g.discardEmissions = g at hdiscard ⊢
  generalize g'.discardEmissions = g' at hdiscard ⊢
  obtain ⟨emitted, outbox, hon, hscene, hrun⟩ := hdiscard
  exact .intro emitted outbox hon hscene hrun

/-- Growers that differ in what is hidden decide the same, and every move keeps it so. -/
theorem lockstep : Lockstep (Masked b l) where
  agree {g _} h := by
    obtain ⟨emitted, outbox, -, -, hrun⟩ := h
    obtain ⟨_, _, _, _, _, _, _, _, run, _, _, _, _⟩ := g
    cases hrun with
    | none => exact ⟨rfl, rfl, rfl, rfl, rfl, rfl, rfl⟩
    | some hr => cases hr; exact ⟨rfl, rfl, rfl, rfl, rfl, rfl, rfl⟩
  adjusted p q d h := by
    obtain ⟨emitted, outbox, hon, hscene, hrun⟩ := h
    exact .intro emitted outbox hon hscene hrun
  redrawn h := by
    obtain ⟨emitted, outbox, hon, hscene, hrun⟩ := h
    exact .intro emitted outbox hon hscene hrun
  noticed h := h.report _ _
  announcing p h := (h.setRun (.some (.intro _ _ _ _ _ _))).report _ _
  stopRun h := h.stopRun
  discardEmissions h := h.discardEmissions
  cleanup h := h.cleanup
  settle h := h.settle
  advance h := h.advance

/-! ### What a host can observe -/

theorem progress (h : Masked b l g g') : g'.phase = g.phase ∧ g'.expanded = g.expanded := by
  obtain ⟨emitted, outbox, -, -, hrun⟩ := h
  obtain ⟨_, _, _, _, _, _, _, _, run, _, _, _, _⟩ := g
  cases hrun with
  | none => exact ⟨rfl, rfl⟩
  | some hr => cases hr; exact ⟨rfl, rfl⟩

theorem scene (h : Masked b l g g') :
    Option.Rel (SceneStore.Masks b l) g.scene g'.scene := by
  obtain ⟨emitted, outbox, -, hscene, -⟩ := h
  exact hscene

end Masked

/-- **Emission switches only mask.**

* Whatever a turtle has done before, a string is read under the switches `b` for segments
  and `l` for leaves symbol by symbol as with both on: the items are the same but for those of
  a kind that is switched off, and so is the turtle after any number of symbols.
* A new grower with these switches, and one with both on, that are asked the same are in the
  same phase of the same symbols.  The store of the one shows what the store of the other
  shows, without the kind that is switched off. -/
theorem masked_respondAll (b l : Bool) :
    (∀ (c : DrawingContext) (t : Turtle) (symbols : String) (n : Nat),
      let full := Interpretation.take n ⟨c.switched true true, t, symbols.toList⟩
      let part := Interpretation.take n ⟨c.switched b l, t, symbols.toList⟩
      part.1 = full.1.map (Option.filter (Emission.shown b l)) ∧
        part.2.turtle = full.2.turtle) ∧
    ∀ (config : GrowthConfig) (p : Parameters) (scene : Option SceneStore),
      (∀ s ∈ scene, s.records = #[]) → ∀ rs : List Request,
      let full := (begin (config.switched true true) p scene).respondAll rs
      let part := (begin (config.switched b l) p scene).respondAll rs
      part.phase = full.phase ∧ part.expanded = full.expanded ∧
        Option.Rel (fun s s' : SceneStore =>
          s'.activeSegments = (if b then s.activeSegments else []) ∧
            s'.activeLeaves = if l then s.activeLeaves else []) full.scene part.scene := by
  refine ⟨fun c t symbols n => Interpretation.take_switched t symbols.toList n, ?_⟩
  intro config p scene hempty rs full part
  have hstart : Masked b l (begin (config.switched true true) p scene)
      (begin (config.switched b l) p scene) := by
    refine .intro #[] #[] rfl ?_ .none
    cases scene with
    | none => exact .none
    | some s => exact .some (SceneStore.masks_of_records_eq_empty (hempty s rfl))
  have hend : Masked b l full part := Masked.lockstep.respondAll hstart rs
  obtain ⟨hphase, hexpanded⟩ := hend.progress
  refine ⟨hphase, hexpanded, ?_⟩
  have hscene := hend.scene
  rcases hs : full.scene with - | s <;> rcases hs' : part.scene with - | s' <;>
    rw [hs, hs'] at hscene
  · exact .none
  · cases hscene
  · cases hscene
  · obtain ⟨hmasks⟩ := hscene
    exact .some ⟨hmasks.activeSegments, hmasks.activeLeaves⟩

/-- Leaves alone, in the middle of a run that has drawn five segments and a leaf. -/
theorem masked_respondAll_leavesOnly :
    let ticks := List.replicate 13 (Request.command (.tick (Duration.ofMilliseconds 3)))
    let grow := fun b l => (begin ((GrowthConfig.ofSeed 7).switched b l)
      { Parameters.standard with iterations := 1 } (some SceneStore.empty)).respondAll
        (.command .toggleGrowth :: ticks)
    (∀ s ∈ some SceneStore.empty, s.records = #[]) ∧
    (grow true true).phase = .interpreting 12 20 ∧ (grow false true).phase = .interpreting 12 20 ∧
    ∃ s s' : SceneStore, (grow true true).scene = some s ∧ (grow false true).scene = some s' ∧
      s.activeSegments.length = 5 ∧ s.activeLeaves.length = 1 ∧
      s'.activeSegments = [] ∧ s'.activeLeaves = s.activeLeaves := by
  intro ticks grow
  have hempty : ∀ s ∈ some SceneStore.empty, s.records = #[] := by
    rintro s ⟨⟩
    rfl
  obtain ⟨hphase, -, hscene⟩ :
      (grow false true).phase = (grow true true).phase ∧
      (grow false true).expanded = (grow true true).expanded ∧
      Option.Rel (fun s s' : SceneStore => s'.activeSegments = [] ∧
        s'.activeLeaves = s.activeLeaves) (grow true true).scene (grow false true).scene :=
    (masked_respondAll false true).2 (GrowthConfig.ofSeed 7) _ _ hempty _
  have hfull : (grow true true).phase = .interpreting 12 20 := by decide +kernel
  have hcounts : (grow true true).scene.map
      (fun s => (s.activeSegments.length, s.activeLeaves.length)) = some (5, 1) := by
    decide +kernel
  clear_value grow
  obtain ⟨s, hs, hcount⟩ := Option.map_eq_some_iff.mp hcounts
  obtain ⟨hfive, hone⟩ := Prod.mk.inj hcount
  rw [hs] at hscene
  generalize (grow false true).scene = scene' at hscene ⊢
  cases hscene with
  | @some _ s' h =>
    exact ⟨hempty, hfull, hphase.trans hfull, s, s', hs, rfl, hfive, hone, h.1, h.2⟩

end Grower

end TurtleTree
