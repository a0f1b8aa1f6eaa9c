/-
TurtleTree/Proofs/Growth/Outline.lean

What the seed cannot change.

Everything a grower draws from its seed ends up in the poses of its turtle and in the
colour of its leaves.  What is emitted at a symbol, of which kind and of which measures,
depends on the parameters and on one bit of the turtle, whether it has moved yet
(`Turtle.emission?_outline`), and this bit does not depend on poses.  So two growers that
differ in what they drew remain of one shape (`Grower.SameShape`): the relation leaves
out the provider, the table, the material and the poses of the turtle, and it compares
scenes by outlines.  Every move of a grower keeps it (`SameShape.lockstep`), and whatever
a host can observe besides poses and colours is the same in both.

Main result: `outline_respondAll`.
-/
import TurtleTree.Proofs.Growth.Lockstep
import TurtleTree.Proofs.Growth.Work
import TurtleTree.Proofs.Scene.CreationLog

namespace TurtleTree

/-! ### Outlines -/

/-- An emission without its place and its colour: its kind and its measures. -/
inductive Outline where
  | segment (width : Float32)
  | leaf (length startWidth endWidth : Float32)
deriving DecidableEq

def Emission.outline : Emission → Outline
  | .segment s => .segment s.width
  | .leaf l => .leaf l.length l.startWidth l.endWidth

/-- The outline of a stored emission, and whether it is shown. -/
def StoredEmission.outline (r : StoredEmission) : Outline × Bool :=
  (r.emission.outline, r.active)

/-- The kind of an emission is part of its outline. -/
theorem StoredEmission.hasKind_of_outline {r r' : StoredEmission} (h : r'.outline = r.outline)
    (g : EmissionHandle) : r'.hasKind g = r.hasKind g := by
  obtain ⟨e, a⟩ := r
  obtain ⟨e', a'⟩ := r'
  have he : e'.outline = e.outline := congrArg Prod.fst h
  cases e <;> cases e'
  · rfl
  · exact Outline.noConfusion he
  · exact Outline.noConfusion he
  · rfl

theorem Run.count_of_outline {e e' : Emission} (h : e'.outline = e.outline) (r : Run) :
    r.count e' = r.count e := by
  cases e <;> cases e'
  · rfl
  · exact Outline.noConfusion h
  · exact Outline.noConfusion h
  · rfl

/-! ### Stores -/

namespace SceneStore

/-- Where a store holds the emission of a handle, if it holds one, with its outline and
whether it is shown. -/
def lookup (s : SceneStore) (h : EmissionHandle) : Option (Nat × Outline × Bool) :=
  (s.place? h).bind fun i => s.records[i.val]?.map fun r => (i.val, r.outline)

/-- What a store tells of a handle, if it holds an emission of this name: the outline, and
whether it is shown. -/
def outline? (s : SceneStore) (h : EmissionHandle) : Option (Outline × Bool) :=
  (s.lookup h).map Prod.snd

/-- Two stores hold emissions of the same outlines under the same handles. -/
structure SameShape (s s' : SceneStore) : Prop where
  firstHandle : s'.firstHandle = s.firstHandle
  clears : s'.clears = s.clears
  outlines : s'.records.map StoredEmission.outline = s.records.map StoredEmission.outline

theorem SameShape.refl (s : SceneStore) : SameShape s s := ⟨rfl, rfl, rfl⟩

namespace SameShape

variable {s s' : SceneStore} (h : SameShape s s')
include h

theorem size : s'.records.size = s.records.size := by
  simpa using congrArg Array.size h.outlines

theorem outline_getElem? (j : Nat) :
    s'.records[j]?.map StoredEmission.outline = s.records[j]?.map StoredEmission.outline := by
  rw [← Array.getElem?_map, ← Array.getElem?_map, h.outlines]

/-- Handles are found by numbers and kinds, and both are the same. -/
theorem lookup (g : EmissionHandle) : s'.lookup g = s.lookup g := by
  have hsize := h.size
  have houtline := h.outline_getElem?
  obtain ⟨first, records, clears⟩ := s
  obtain ⟨first', records', clears'⟩ := s'
  obtain ⟨hfirst, -, -⟩ := h
  obtain rfl : first' = first := hfirst
  simp only [SceneStore.lookup, SceneStore.place?]
  by_cases hfrom : first' ≤ g.number.toNat
  · by_cases hplace : g.number.toNat - first' < records.size
    · have hplace' : g.number.toNat - first' < records'.size := by rwa [hsize]
      have hsame : records'[g.number.toNat - first'].outline
          = records[g.number.toNat - first'].outline := by
        simpa [hplace, hplace'] using houtline (g.number.toNat - first')
      have hkind := StoredEmission.hasKind_of_outline hsame g
      simp only [hfrom, hplace, hplace', hkind, if_true, dif_pos]
      split
      · simp only [Option.bind_some, Array.getElem?_eq_getElem hplace,
          Array.getElem?_eq_getElem hplace', Option.map_some, hsame]
      · rfl
    · have hplace' : ¬ g.number.toNat - first' < records'.size := by rwa [hsize]
      simp only [hfrom, hplace, hplace', if_true, dif_neg, not_false_iff, Option.bind_none]
  · simp only [hfrom, if_false, Option.bind_none]

theorem outline? : s'.outline? = s.outline? := by
  funext g
  rw [SceneStore.outline?, SceneStore.outline?, h.lookup]

theorem clear : SameShape (Scene.clear s) (Scene.clear s') where
  firstHandle := by
    show s'.firstHandle + s'.records.size = s.firstHandle + s.records.size
    rw [h.firstHandle, h.size]
  clears := congrArg (· + 1) h.clears
  outlines := rfl

theorem setActive (g : EmissionHandle) (active : Bool) :
    SameShape (Scene.setActive s g active) (Scene.setActive s' g active) := by
  have hplace := congrArg (Option.map Prod.fst) (h.lookup g)
  show SameShape (s.setActive g active) (s'.setActive g active)
  rw [SceneStore.setActive, SceneStore.setActive]
  rcases hi : s.place? g with - | i <;> rcases hi' : s'.place? g with - | i'
  · exact h
  · simp [SceneStore.lookup, hi, hi'] at hplace
  · simp [SceneStore.lookup, hi, hi'] at hplace
  · have hval : i'.val = i.val := by simpa [SceneStore.lookup, hi, hi'] using hplace
    refine ⟨h.firstHandle, h.clears, ?_⟩
    refine Array.ext_getElem? fun j => ?_
    have hj := h.outline_getElem? j
    simp only [Array.getElem?_map, Array.getElem?_modify, hval]
    split
    · -- the flag is set after the outline was taken
      have hset := congrArg (Option.map fun o => (o.1, active)) hj
      simp only [Option.map_map] at hset ⊢
      exact hset
    · exact hj

theorem hideAll (gs : List EmissionHandle) :
    SameShape (Scene.hideAll s gs) (Scene.hideAll s' gs) := by
  induction gs generalizing s s' with
  | nil => exact h
  | cons g gs ih => exact ih (h.setActive g false)

theorem keep {e e' : Emission} (he : e'.outline = e.outline) :
    SameShape (s.keep e) (s'.keep e') := by
  refine ⟨h.firstHandle, h.clears, ?_⟩
  have hnew : StoredEmission.outline ⟨e', true⟩ = StoredEmission.outline ⟨e, true⟩ :=
    congrArg (·, true) he
  simp only [SceneStore.keep, Array.map_push, h.outlines, hnew]

theorem nextHandle : s'.nextHandle = s.nextHandle := by
  rw [SceneStore.nextHandle, SceneStore.nextHandle, h.firstHandle, h.size]

/-- Emissions of one outline get one handle. -/
theorem add {e e' : Emission} (he : e'.outline = e.outline) :
    (Scene.add s' e').1 = (Scene.add s e).1 ∧
      SameShape (Scene.add s e).2 (Scene.add s' e').2 := by
  have hnext := h.nextHandle
  have hkeep := h.keep he
  cases e <;> cases e'
  · exact ⟨congrArg (fun n => EmissionHandle.segment ⟨n⟩) hnext, hkeep⟩
  · exact Outline.noConfusion he
  · exact Outline.noConfusion he
  · exact ⟨congrArg (fun n => EmissionHandle.leaf ⟨n⟩) hnext, hkeep⟩

end SameShape

end SceneStore

/-! ### Turtles -/

/-- The context with another table and another leaf material. -/
def DrawingContext.redrawn (c : DrawingContext) (v : VarianceTable) (m : Option Material) :
    DrawingContext := { c with variance := v, material := m }

namespace Turtle

/-- Two turtles are of one shape when both have moved or neither has. -/
def SameShape (t t' : Turtle) : Prop := t'.tip.isSome = t.tip.isSome

theorem move_sameShape {t t' : Turtle} (h : t.SameShape t') (c c' : DrawingContext)
    (x : Char) : (t.move c x).SameShape (t'.move c' x) := by
  unfold SameShape move
  split
  · simp only [Option.isSome_some]
  · simp only [Option.isSome_some]
  all_goals exact h

/-- **A symbol leaves the same outline**, whatever the turns before it were. -/
theorem emission?_outline {t t' : Turtle} (h : t.SameShape t') (c : DrawingContext)
    (v : VarianceTable) (m : Option Material) (x : Char) :
    (t'.emission? (c.redrawn v m) x).map Emission.outline
      = (t.emission? c x).map Emission.outline := by
  unfold emission?
  split
  · simp only [apply_ite (Option.map Emission.outline), Option.map_some, Emission.outline]
    rfl
  · simp only [apply_ite (Option.map Emission.outline), Option.map_some, Emission.outline]
    rfl
  · -- the measures of a leaf do not depend on the tip it grows at
    have hleaf : (t'.tip.map fun tip => Emission.leaf
          (leafAt (c.redrawn v m) tip)).map Emission.outline
        = (t.tip.map fun tip => Emission.leaf (leafAt c tip)).map Emission.outline := by
      rw [SameShape] at h
      rcases ht : t.tip with - | tip <;> rcases ht' : t'.tip with - | tip'
      · simp only [Option.map_none]
      · simp [ht, ht'] at h
      · simp [ht, ht'] at h
      · simp only [Option.map_some, Emission.outline, leafAt, DrawingContext.redrawn]
    simp only [apply_ite (Option.map Emission.outline), hleaf]
    rfl
  · rfl

end Turtle

namespace Reading

/-- The reading with another turtle. -/
def withTurtle (r : Reading) (t : Turtle) : Reading := { r with turtle := t }

/-- A reading goes on alike. -/
theorem advance_outline (r : Reading) {t : Turtle} (h : r.turtle.SameShape t)
    (c : DrawingContext) (v : VarianceTable) (m : Option Material) :
    ∃ t' : Turtle, (r.advance c).1.turtle.SameShape t' ∧
      ((r.withTurtle t).advance (c.redrawn v m)).1 = (r.advance c).1.withTurtle t' ∧
      ((r.withTurtle t).advance (c.redrawn v m)).2.map Emission.outline
        = (r.advance c).2.map Emission.outline := by
  have hsymbol : (r.withTurtle t).symbol? = r.symbol? := rfl
  rcases hx : r.symbol? with - | x
  · simp only [advance, hsymbol, hx]
    exact ⟨t, h, rfl, trivial⟩
  · simp only [advance, hsymbol, hx]
    exact ⟨_, Turtle.move_sameShape h _ _ x, rfl, Turtle.emission?_outline h c v m x⟩

end Reading

/-! ### Runs -/

/-- Two runs of the same parameters are at the same unit of work and have counted the same. -/
inductive Run.SameShape : Run → Run → Prop
  | expanding (p : Parameters) (e : Expansion) (segments leaves : Nat) :
      SameShape ⟨p, .expanding e, segments, leaves⟩ ⟨p, .expanding e, segments, leaves⟩
  | interpreting (p : Parameters) {r : Reading} {t : Turtle} (segments leaves : Nat) :
      r.turtle.SameShape t → SameShape ⟨p, .interpreting r, segments, leaves⟩
        ⟨p, .interpreting (r.withTurtle t), segments, leaves⟩

theorem Run.SameShape.refl (r : Run) : SameShape r r := by
  obtain ⟨p, e | r, segments, leaves⟩ := r
  · exact .expanding p e segments leaves
  · exact .interpreting p segments leaves rfl

namespace Grower

/-- Two growers of one shape differ at most in the seed and the palette, in what was drawn from
them, and in what a scene holds besides outlines. -/
inductive SameShape : Grower SceneStore → Grower SceneStore → Prop
  | intro {g : Grower SceneStore} {scene : Option SceneStore} {run : Option Run}
      (seed : UInt64) (paletteSize : Nat) (provider : VarianceProvider)
      (variance : VarianceTable) (material : Option Material) :
      Option.Rel SceneStore.SameShape g.scene scene → Option.Rel Run.SameShape g.run run →
      SameShape g { g with
        config := { g.config with seed, paletteSize }
        scene
        provider
        variance
        material
        run }

namespace SameShape

variable {g g' : Grower SceneStore}

/-! ### Ways of writing -/

theorem report (h : SameShape g g') (e : Event) : SameShape (g.report e) (g'.report e) := by
  obtain ⟨seed, n, provider, variance, material, hscene, hrun⟩ := h
  exact .intro (g := g.report e) seed n provider variance material hscene hrun

theorem discardEmissions (h : SameShape g g') :
    SameShape g.discardEmissions g'.discardEmissions := by
  obtain ⟨seed, n, provider, variance, material, hscene, hrun⟩ := h
  obtain ⟨_, _, _, scene, _, _, _, emitted, _, _, _, _, _⟩ := g
  rw [discardEmissions_eq, discardEmissions_eq]
  cases hscene with
  | none => exact .intro seed n provider variance material .none hrun
  | some hs =>
    exact .intro seed n provider variance material (.some (hs.hideAll emitted.toList).clear) hrun

theorem emit (h : SameShape g g') {e e' : Emission} (he : e'.outline = e.outline) :
    SameShape (g.emit e) (g'.emit e') := by
  obtain ⟨seed, n, provider, variance, material, hscene, hrun⟩ := h
  obtain ⟨_, _, _, scene, _, _, _, _, _, _, _, _, _⟩ := g
  cases hscene with
  | none => exact .intro seed n provider variance material .none hrun
  | some hs =>
    obtain ⟨hname, hadd⟩ := hs.add he
    simp only [Grower.emit, hname]
    exact .intro seed n provider variance material (.some hadd) hrun

/-! ### Runs -/

theorem setRun (h : SameShape g g') {run run' : Option Run}
    (hrun : Option.Rel Run.SameShape run run') :
    SameShape { g with run } { g' with run := run' } := by
  obtain ⟨seed, n, provider, variance, material, hscene, -⟩ := h
  exact .intro (g := { g with run }) seed n provider variance material hscene hrun

theorem stopRun (h : SameShape g g') : SameShape g.stopRun g'.stopRun := by
  obtain ⟨seed, n, provider, variance, material, hscene, hrun⟩ := h
  obtain ⟨_, _, _, _, _, _, _, _, run, _, _, _, _⟩ := g
  cases hrun with
  | none => exact .intro seed n provider variance material hscene .none
  | some hr =>
    cases hr <;> exact .intro seed n provider variance material hscene .none

theorem settle (h : SameShape g g') : SameShape g.settle g'.settle := by
  obtain ⟨seed, n, provider, variance, material, hscene, hrun⟩ := h
  obtain ⟨_, _, _, _, _, _, _, _, run, _, _, _, _⟩ := g
  cases hrun with
  | none => exact .intro seed n provider variance material hscene .none
  | some hr =>
    cases hr with
    | expanding p e segments leaves =>
      exact .intro seed n provider variance material hscene (.some (.expanding p e segments leaves))
    | @interpreting p r t segments leaves ht =>
      have hend : (r.withTurtle t).isExhausted = r.isExhausted := rfl
      rcases hr : r.isExhausted with - | -
      · simp only [Grower.settle, hend, hr, Bool.false_eq_true, if_false]
        exact .intro seed n provider variance material hscene
          (.some (.interpreting p segments leaves ht))
      · simp only [Grower.settle, hend, hr, if_true]
        exact .intro seed n provider variance material hscene .none

/-- A pass is the same in both. -/
theorem advance_expanding (h : SameShape g g') {p : Parameters} {e : Expansion}
    {segments leaves : Nat} (hg : g.run = some ⟨p, .expanding e, segments, leaves⟩)
    (hg' : g'.run = some ⟨p, .expanding e, segments, leaves⟩) :
    SameShape g.advance g'.advance := by
  rcases he : e.advance? with - | e'
  · simp only [Grower.advance, hg, hg', he]
    exact (h.setRun (.some (.refl _))).settle
  · rw [advance_of_expanding hg rfl he, advance_of_expanding hg' rfl he]
    exact ((h.setRun (.some (.refl _))).report _).settle

/-- A symbol is read by turtles of one shape. -/
theorem advance_interpreting (h : SameShape g g') {p : Parameters} {r : Reading} {t : Turtle}
    {segments leaves : Nat} (ht : r.turtle.SameShape t)
    (hg : g.run = some ⟨p, .interpreting r, segments, leaves⟩)
    (hg' : g'.run = some ⟨p, .interpreting (r.withTurtle t), segments, leaves⟩) :
    SameShape g.advance g'.advance := by
  have hcontext : ∀ run run' : Run, run'.parameters = run.parameters →
      g'.drawingContext run' = (g.drawingContext run).redrawn g'.variance g'.material := by
    intro run run' hp
    obtain ⟨seed, n, provider, variance, material, -, -⟩ := h
    simp only [drawingContext, DrawingContext.redrawn, hp]
  obtain ⟨t', ht', hread, hitem⟩ := r.advance_outline ht
    (g.drawingContext ⟨p, .interpreting r, segments, leaves⟩) g'.variance g'.material
  rw [← hcontext ⟨p, .interpreting r, segments, leaves⟩
    ⟨p, .interpreting (r.withTurtle t), segments, leaves⟩ rfl] at hread hitem
  rcases hr : r.advance (g.drawingContext ⟨p, .interpreting r, segments, leaves⟩) with ⟨q, item⟩
  rcases hr' : (r.withTurtle t).advance
    (g'.drawingContext ⟨p, .interpreting (r.withTurtle t), segments, leaves⟩)
    with ⟨q', item'⟩
  rw [hr, hr'] at hread hitem
  rw [hr] at ht'
  obtain rfl : q' = q.withTurtle t' := hread
  rw [advance_of_interpreting hg rfl hr, advance_of_interpreting hg' rfl hr']
  rcases item with - | e <;> rcases item' with - | e'
  · exact (h.setRun (.some (.interpreting p segments leaves ht'))).settle
  · cases hitem
  · cases hitem
  · have he : e'.outline = e.outline := Option.some.inj hitem
    refine ((h.setRun (.some ?_)).emit he).settle
    rw [Run.count_of_outline he]
    cases e with
    | segment x => exact .interpreting p (segments + 1) leaves ht'
    | leaf l => exact .interpreting p segments (leaves + 1) ht'

/-- Both runs are at the same unit of work. -/
theorem advance (h : SameShape g g') : SameShape g.advance g'.advance := by
  have hrun : Option.Rel Run.SameShape g.run g'.run := by
    obtain ⟨seed, n, provider, variance, material, -, hrun⟩ := h
    exact hrun
  rcases hg : g.run with - | run <;> rcases hg' : g'.run with - | run' <;> rw [hg, hg'] at hrun
  · rw [advance_of_idle hg, advance_of_idle hg']
    exact h
  · cases hrun
  · cases hrun
  · obtain ⟨hr⟩ := hrun
    cases hr with
    | expanding p e segments leaves => exact h.advance_expanding hg hg'
    | interpreting p segments leaves ht => exact h.advance_interpreting ht hg hg'

/-! ### Requests -/

/-- What is drawn for a new tree is left out of the shape. -/
theorem cleanup (h : SameShape g g') : SameShape g.cleanup g'.cleanup := by
  have hdiscard := h.discardEmissions
  simp only [Grower.cleanup]
  generalize g.discardEmissions = g at hdiscard ⊢
  generalize g'.discardEmissions = g' at hdiscard ⊢
  obtain ⟨seed, n, provider, variance, material, hscene, hrun⟩ := hdiscard
  exact .intro seed n _ _ _ hscene hrun

/-- Growers of one shape decide the same, and every move keeps their shape. -/
theorem lockstep : Lockstep SameShape where
  agree {g _} h := by
    obtain ⟨seed, n, provider, variance, material, -, hrun⟩ := h
    obtain ⟨_, _, _, _, _, _, _, _, run, _, _, _, _⟩ := g
    cases hrun with
    | none => exact ⟨rfl, rfl, rfl, rfl, rfl, rfl, rfl⟩
    | some hr => cases hr <;> exact ⟨rfl, rfl, rfl, rfl, rfl, rfl, rfl⟩
  adjusted p q d h := by
    obtain ⟨seed, n, provider, variance, material, hscene, hrun⟩ := h
    exact .intro seed n provider variance material hscene hrun
  redrawn h := by
    obtain ⟨seed, n, provider, variance, material, hscene, hrun⟩ := h
    exact .intro seed n _ _ material hscene hrun
  noticed h := h.report _
  announcing p h := (h.setRun (.some (.refl (Run.begin p)))).report _
  stopRun h := h.stopRun
  discardEmissions h := h.discardEmissions
  cleanup h := h.cleanup
  settle h := h.settle
  advance h := h.advance

/-! ### What a host can observe -/

theorem scene (h : SameShape g g') : Option.Rel SceneStore.SameShape g.scene g'.scene := by
  obtain ⟨-, -, -, -, -, hscene, -⟩ := h
  exact hscene

theorem outline? (h : SameShape g g') :
    g'.scene.map SceneStore.outline? = g.scene.map SceneStore.outline? := by
  have hscene := h.scene
  rcases hs : g.scene with - | s <;> rcases hs' : g'.scene with - | s' <;> rw [hs, hs'] at hscene
  · cases hscene
  · cases hscene
  · obtain ⟨hshape⟩ := hscene
    exact congrArg some hshape.outline?

theorem reported (h : SameShape g g') : g'.outbox = g.outbox ∧ g'.emitted = g.emitted ∧
    g'.parameters = g.parameters ∧ g'.buffered = g.buffered := by
  obtain ⟨-, -, -, -, -, -, -⟩ := h
  exact ⟨rfl, rfl, rfl, rfl⟩

theorem progress (h : SameShape g g') : g'.phase = g.phase ∧ g'.expanded = g.expanded := by
  obtain ⟨seed, n, provider, variance, material, -, hrun⟩ := h
  obtain ⟨_, _, _, _, _, _, _, _, run, _, _, _, _⟩ := g
  cases hrun with
  | none => exact ⟨rfl, rfl⟩
  | some hr => cases hr <;> exact ⟨rfl, rfl⟩

end SameShape

/-- **The seed does not influence structure.**  Two new growers with the same parameters, the
same kind of scene and the same configuration but for the seed and the number of colours are
asked the same.  Then both report the same, are at the same point of the same run, hold the same
handles, and have scenes with the same handles, each shown or hidden in both, and with the same
measures. -/
theorem outline_respondAll (config : GrowthConfig) (seed : UInt64) (paletteSize : Nat)
    (p : Parameters) (scene : Option SceneStore) (rs : List Request) :
    let g := (begin config p scene).respondAll rs
    let g' := (begin { config with seed, paletteSize } p scene).respondAll rs
    (g'.outbox = g.outbox ∧ g'.phase = g.phase ∧ g'.isRunning = g.isRunning ∧
      g'.expanded = g.expanded ∧ g'.emitted = g.emitted ∧
      g'.parameters = g.parameters ∧ g'.buffered = g.buffered) ∧
    Option.Rel SceneStore.SameShape g.scene g'.scene ∧
    g'.scene.map SceneStore.outline? = g.scene.map SceneStore.outline? := by
  intro g g'
  have hstart : SameShape (begin config p scene)
      (begin { config with seed, paletteSize } p scene) := by
    refine .intro seed paletteSize _ _ _ ?_ .none
    rcases scene with - | s
    · exact .none
    · exact .some (.refl s)
  have hend : SameShape g g' := SameShape.lockstep.respondAll hstart rs
  obtain ⟨houtbox, hemitted, hlive, hbuffered⟩ := hend.reported
  obtain ⟨hphase, hexpanded⟩ := hend.progress
  exact ⟨⟨houtbox, hphase, (SameShape.lockstep.agree hend).running, hexpanded, hemitted, hlive, hbuffered⟩, hend.scene,
    hend.outline?⟩

end Grower

end TurtleTree
