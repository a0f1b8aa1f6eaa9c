/-
TurtleTree/Proofs/Growth/Output.lean

What a grower puts out, told apart from what decides its course.

A grower writes to its scene, its handles and its outbox (`Output`), and never
reads them to decide what it does next.  So a grower can be given another output
(`Grower.put`), also one with a scene of another kind, and does the same work
from there.

Main result: if the three ways of writing keep two outputs in a relation, then
everything a host can ask keeps them in it (`Alike.respondAll`).  What the
growers decide by themselves is the same throughout.
-/
import TurtleTree.Proofs.Growth.Lockstep

namespace TurtleTree

/-- The report says that the scene took something in. -/
def Event.isEmission : Event → Bool
  | .segmentEmitted _ => true
  | .leafEmitted _ => true
  | _ => false

/-- What a grower puts out. -/
structure Output (σ : Type) where
  scene : Option σ
  emitted : Array EmissionHandle
  outbox : Array Event

namespace Output

variable {σ : Type}

/-- The output with one report more. -/
def report (o : Output σ) (e : Event) : Output σ := { o with outbox := o.outbox.push e }

variable [Scene σ]

/-- The output with everything hidden and the scene cleared. -/
def discard (o : Output σ) : Output σ :=
  { o with
    scene := o.scene.map fun s => Scene.clear (Scene.hideAll s o.emitted.toList)
    emitted := #[] }

/-- The output with one emission more, if there is a scene. -/
def emit (o : Output σ) (e : Emission) : Output σ where
  scene := Scene.with? o.scene [e]
  emitted := o.emitted ++ (Scene.names? o.scene [e]).toArray
  outbox := o.outbox ++ ((Scene.names? o.scene [e]).map Event.emitted).toArray

end Output

namespace Grower

variable {σ τ : Type}

/-- What the grower has put out. -/
def output (g : Grower σ) : Output σ := ⟨g.scene, g.emitted, g.outbox⟩

/-- The grower with another output, and everything else as it is. -/
def put (g : Grower σ) (o : Output τ) : Grower τ where
  config := g.config
  parameters := g.parameters
  buffered := g.buffered
  scene := o.scene
  provider := g.provider
  variance := g.variance
  material := g.material
  emitted := o.emitted
  run := g.run
  lastSymbols := g.lastSymbols
  completed := g.completed
  pollElapsed := g.pollElapsed
  outbox := o.outbox

variable [Scene σ] [Scene τ]

/-- Two growers are alike when they differ at most in their outputs, and these are related. -/
inductive Alike (R : Output σ → Output τ → Prop) : Grower σ → Grower τ → Prop
  | intro {g : Grower σ} (o : Output τ) : R g.output o → Alike R g (g.put o)

/-- Every way of writing to an output keeps a relation. -/
structure Kept (R : Output σ → Output τ → Prop) : Prop where
  report : ∀ {o o'} (e : Event), e.isEmission = false → R o o' → R (o.report e) (o'.report e)
  discard : ∀ {o o'}, R o o' → R o.discard o'.discard
  emit : ∀ {o o'} (e : Emission), R o o' → R (o.emit e) (o'.emit e)

namespace Alike

variable {R : Output σ → Output τ → Prop} {g : Grower σ} {g' : Grower τ}

omit [Scene σ] [Scene τ] in
theorem output (h : Alike R g g') : R g.output g'.output := by
  obtain ⟨o, ho⟩ := h
  exact ho

omit [Scene σ] [Scene τ] in
/-- What decides the course of a grower is the same in both. -/
theorem eq_put (h : Alike R g g') : g' = g.put g'.output := by
  obtain ⟨o, ho⟩ := h
  rfl

/-! ### The ways of writing -/

theorem report (hR : Kept R) (h : Alike R g g') {e : Event} (he : e.isEmission = false) :
    Alike R (g.report e) (g'.report e) := by
  obtain ⟨o, ho⟩ := h
  exact .intro (o.report e) (hR.report e he ho)

theorem discardEmissions (hR : Kept R) (h : Alike R g g') :
    Alike R g.discardEmissions g'.discardEmissions := by
  obtain ⟨o, ho⟩ := h
  rw [discardEmissions_eq, discardEmissions_eq]
  exact .intro o.discard (hR.discard ho)

theorem emit (hR : Kept R) (h : Alike R g g') (e : Emission) :
    Alike R (g.emit e) (g'.emit e) := by
  obtain ⟨o, ho⟩ := h
  rw [emit_eq, emit_eq]
  exact .intro (o.emit e) (hR.emit e ho)

/-! ### Runs -/

theorem stopRun (hR : Kept R) (h : Alike R g g') : Alike R g.stopRun g'.stopRun := by
  obtain ⟨o, ho⟩ := h
  obtain ⟨_, _, _, _, _, _, _, _, run, _, _, _, _⟩ := g
  rcases run with - | run
  · exact .intro o ho
  · exact .intro (o.report _) (hR.report _ rfl ho)

theorem settle (hR : Kept R) (h : Alike R g g') : Alike R g.settle g'.settle := by
  obtain ⟨o, ho⟩ := h
  obtain ⟨_, _, _, _, _, _, _, _, run, _, _, _, _⟩ := g
  rcases run with - | ⟨p, stage, segments, leaves⟩
  · exact .intro o ho
  · rcases stage with e | r
    · exact .intro o ho
    · rcases hr : r.isExhausted with - | -
      · simp only [Grower.settle, put, hr, Bool.false_eq_true, if_false]
        exact .intro o ho
      · simp only [Grower.settle, put, hr, if_true]
        exact .intro (o.report _) (hR.report _ rfl ho)

omit [Scene σ] [Scene τ] in
theorem setRun (h : Alike R g g') (run : Option Run) :
    Alike R { g with run } { g' with run } := by
  obtain ⟨o, ho⟩ := h
  exact .intro o ho

/-- The stage of a run decides what a unit of work is, and the output does not matter. -/
theorem advance (hR : Kept R) (h : Alike R g g') : Alike R g.advance g'.advance := by
  have hrun : g'.run = g.run := by rw [h.eq_put]; rfl
  have hcontext : ∀ run, g'.drawingContext run = g.drawingContext run := by
    intro run
    rw [h.eq_put]
    rfl
  rcases hg : g.run with - | ⟨p, stage, segments, leaves⟩
  · simp only [Grower.advance, hrun, hg]
    exact h
  · rcases stage with e | r
    · rcases he : e.advance? with - | e'
      · simp only [Grower.advance, hrun, hg, he]
        exact settle hR (h.setRun _)
      · simp only [Grower.advance, hrun, hg, he]
        exact settle hR (report hR (h.setRun _) rfl)
    · rcases hr : r.advance (g.drawingContext ⟨p, .interpreting r, segments, leaves⟩)
        with ⟨r', - | e⟩
      · simp only [Grower.advance, hrun, hg, hcontext, hr]
        exact settle hR (h.setRun _)
      · simp only [Grower.advance, hrun, hg, hcontext, hr]
        exact settle hR (emit hR (h.setRun _) e)

/-! ### Requests -/

theorem cleanup (hR : Kept R) (h : Alike R g g') : Alike R g.cleanup g'.cleanup := by
  have hdiscard := h.discardEmissions hR
  simp only [Grower.cleanup]
  generalize g.discardEmissions = g at hdiscard ⊢
  generalize g'.discardEmissions = g' at hdiscard ⊢
  obtain ⟨o, ho⟩ := hdiscard
  exact .intro o ho

/-- Growers that are alike decide the same, and every move keeps them alike. -/
theorem lockstep (hR : Kept R) : Lockstep (Alike R) where
  agree h := by
    obtain ⟨o, ho⟩ := h
    exact ⟨rfl, rfl, rfl, rfl, rfl, rfl, rfl⟩
  adjusted p q d h := by
    obtain ⟨o, ho⟩ := h
    exact .intro o ho
  redrawn h := by
    obtain ⟨o, ho⟩ := h
    exact .intro o ho
  noticed h := h.report hR rfl
  announcing p h := report hR (h.setRun (some (Run.begin p))) rfl
  stopRun h := h.stopRun hR
  discardEmissions h := h.discardEmissions hR
  cleanup h := h.cleanup hR
  settle h := h.settle hR
  advance h := h.advance hR

/-- **Growers that are alike stay alike**, whatever a host asks of both. -/
theorem respondAll (hR : Kept R) (h : Alike R g g') (rs : List Request) :
    Alike R (g.respondAll rs) (g'.respondAll rs) := (lockstep hR).respondAll h rs

end Alike

end Grower

end TurtleTree
