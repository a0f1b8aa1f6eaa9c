/-
TurtleTree/Proofs/Viewer/Latching.lean

What the latches hold, whatever was done to them.

Buttons and sliders are registered one by one or as the response of a panel, and taken
one by one or gathered with the keys of a frame.  The latches are told from the steps
alone: a button is latched if it was pressed since it was last taken, and a slider has
the value it was last moved to since then (`Since`).  One induction on the steps serves
both, for what a step does to a latch is the same in either case: the step sets it,
or it clears it, or it leaves it alone (`PanelLatches.holds_iff_since`).

Main results: what a frame gathers after any steps (`PanelLatches.gather_after`), and that
nothing is left to gather a second time (`PanelLatches.gather_register`).
-/
import Mathlib.Data.List.Induction
import TurtleTree.Viewer.Latches

namespace TurtleTree

/-! ### Buttons and sliders -/

/-- A button of the panel. -/
inductive Button where
  | regenerate
  | growth
  | random
  | leafColor
deriving DecidableEq

namespace Button

/-- The button was clicked in the panel. -/
def clickedIn : Button → PanelResponse → Bool
  | regenerate => PanelResponse.regenerate
  | growth => PanelResponse.growth
  | random => PanelResponse.random
  | leafColor => PanelResponse.leafColor

/-- A key was pressed that does the same. -/
def pressedIn : Button → Shortcuts → Bool
  | regenerate => Shortcuts.regenerate
  | growth => Shortcuts.toggleGrowth
  | random => Shortcuts.toggleRandom
  | leafColor => Shortcuts.toggleLeafColor

/-- The frame asks for what the button does. -/
def askedIn : Button → FrameInput → Bool
  | regenerate => FrameInput.regenerate
  | growth => FrameInput.toggleGrowth
  | random => FrameInput.toggleRandom
  | leafColor => FrameInput.toggleLeafColor

def latchedIn : Button → PanelLatches → Bool
  | regenerate => PanelLatches.regenerate
  | growth => PanelLatches.growth
  | random => PanelLatches.random
  | leafColor => PanelLatches.leafColor

def register : Button → PanelLatches → PanelLatches
  | regenerate => PanelLatches.registerRegenerate
  | growth => PanelLatches.registerGrowth
  | random => PanelLatches.registerRandom
  | leafColor => PanelLatches.registerLeafColor

def take : Button → PanelLatches → Bool × PanelLatches
  | regenerate => PanelLatches.takeRegenerate
  | growth => PanelLatches.takeGrowth
  | random => PanelLatches.takeRandom
  | leafColor => PanelLatches.takeLeafColor

end Button

/-- A slider of the panel. -/
inductive Slider where
  | angle
  | branchLength
  | branchWidth
  | leafLength
  | leafStartWidth
  | leafEndWidth
  | angleVariance

namespace Slider

/-- What the slider can be moved to. -/
def Value : Slider → Type
  | angleVariance => Int32
  | _ => Float32

/-- The value that the slider was moved to, if it was. -/
def editIn : (s : Slider) → SliderEdits → Option s.Value
  | angle => SliderEdits.angle
  | branchLength => SliderEdits.branchLength
  | branchWidth => SliderEdits.branchWidth
  | leafLength => SliderEdits.leafLength
  | leafStartWidth => SliderEdits.leafStartWidth
  | leafEndWidth => SliderEdits.leafEndWidth
  | angleVariance => SliderEdits.angleVariance

@[simp] theorem editIn_none (s : Slider) : s.editIn SliderEdits.none = none := by
  cases s <;> rfl

@[simp] theorem editIn_merge (s : Slider) (older newer : SliderEdits) :
    s.editIn (older.merge newer) = (s.editIn newer).or (s.editIn older) := by
  cases s <;> rfl

end Slider

namespace SliderEdits

theorem eq_none_of_isEmpty {e : SliderEdits} (h : e.isEmpty = true) : e = none := by
  obtain ⟨_, _, _, _, _, _, _⟩ := e
  simp only [isEmpty, Bool.and_eq_true, Option.isNone_iff_eq_none] at h
  obtain ⟨⟨⟨⟨⟨⟨rfl, rfl⟩, rfl⟩, rfl⟩, rfl⟩, rfl⟩, rfl⟩ := h
  rfl

theorem none_merge (e : SliderEdits) : none.merge e = e := by
  simp only [merge, none, Option.or_none]

end SliderEdits

/-! ### Steps -/

/-- What can be done to the latches. -/
inductive LatchStep where
  | press (b : Button)
  | slide (e : SliderEdits)
  /-- The panel was drawn. -/
  | register (r : PanelResponse)
  | take (b : Button)
  | takeSliders
  /-- A frame began. -/
  | gather (keys : Shortcuts)

namespace LatchStep

/-- The step registers the button. -/
def presses (b : Button) : LatchStep → Prop
  | press b' => b' = b
  | register r => b.clickedIn r = true
  | _ => False

/-- The step takes the button. -/
def takes (b : Button) : LatchStep → Prop
  | take b' => b' = b
  | gather _ => True
  | _ => False

/-- The slider edits that the step registers. -/
def edits : LatchStep → SliderEdits
  | slide e => e
  | register r => r.sliders
  | _ => SliderEdits.none

/-- The step takes the slider edits. -/
def takesEdits : LatchStep → Prop
  | takeSliders => True
  | gather _ => True
  | _ => False

/-- The step moves the slider. -/
def moves (s : Slider) (step : LatchStep) : Prop := (s.editIn step.edits).isSome = true

/-- The value that the slider has, if it has one, is not kept. -/
def overwrites (s : Slider) (step : LatchStep) : Prop := step.takesEdits ∨ step.moves s

end LatchStep

/-- A step of the one kind was made, and none of the other kind after it. -/
def Since (starts stops : LatchStep → Prop) (steps : List LatchStep) : Prop :=
  ∃ earlier step later, steps = earlier ++ step :: later ∧ starts step ∧
    ∀ after ∈ later, ¬ stops after

section Since

variable {starts stops : LatchStep → Prop} {steps : List LatchStep} {step : LatchStep}

theorem not_since_nil : ¬ Since starts stops [] := by
  rintro ⟨earlier, step, later, h, -⟩
  exact List.append_ne_nil_of_right_ne_nil earlier (List.cons_ne_nil step later) h.symm

/-- The last step decides, or it leaves the decision to the steps before it. -/
theorem since_concat : Since starts stops (steps ++ [step]) ↔
    starts step ∨ ¬ stops step ∧ Since starts stops steps := by
  constructor
  · rintro ⟨earlier, first, later, h, hstarts, hlater⟩
    cases later using List.reverseRecOn with
    | nil =>
      obtain ⟨-, hstep⟩ := List.append_inj' h rfl
      rw [List.singleton_inj.mp hstep]
      exact Or.inl hstarts
    | append_singleton later last =>
      rw [← List.cons_append, ← List.append_assoc] at h
      obtain ⟨rfl, hstep⟩ := List.append_inj' h rfl
      obtain ⟨hrest, hlast⟩ := List.forall_mem_append.mp hlater
      rw [List.singleton_inj.mp hstep]
      exact Or.inr ⟨hlast last List.mem_cons_self, earlier, first, later, rfl, hstarts, hrest⟩
  · rintro (hstarts | ⟨hstops, earlier, first, later, rfl, hstarts, hlater⟩)
    · exact ⟨steps, step, [], rfl, hstarts, fun _ h => absurd h List.not_mem_nil⟩
    · refine ⟨earlier, first, later ++ [step], ?_, hstarts, ?_⟩
      · rw [List.append_assoc, List.cons_append]
      · exact List.forall_mem_append.mpr ⟨hlater, List.forall_mem_singleton.mpr hstops⟩

end Since

namespace PanelLatches

/-- The latches after a step. -/
def stepped (l : PanelLatches) : LatchStep → PanelLatches
  | .press b => b.register l
  | .slide e => l.registerSliders e
  | .register r => l.register r
  | .take b => (b.take l).2
  | .takeSliders => l.takeSliders.2
  | .gather keys => (l.gather keys).2

/-- The latches after steps, if they were empty before. -/
def after (steps : List LatchStep) : PanelLatches := steps.foldl stepped empty

theorem after_concat (steps : List LatchStep) (step : LatchStep) :
    after (steps ++ [step]) = (after steps).stepped step := by
  rw [after, List.foldl_append]
  rfl

/-- **A latch** that a step sets, clears or leaves alone holds what was set and not cleared
since. -/
theorem holds_iff_since (holds : PanelLatches → Prop) {starts stops : LatchStep → Prop}
    (hempty : ¬ holds empty)
    (hstep : ∀ l step, holds (l.stepped step) ↔ starts step ∨ ¬ stops step ∧ holds l)
    (steps : List LatchStep) : holds (after steps) ↔ Since starts stops steps := by
  induction steps using List.reverseRecOn with
  | nil => exact iff_of_false hempty not_since_nil
  | append_singleton steps step ih => rw [after_concat, hstep, since_concat, ih]

/-! ### Buttons -/

section Buttons

variable (b b' : Button) (l : PanelLatches)

@[simp] theorem latchedIn_empty : b.latchedIn empty = false := by
  cases b <;> rfl

@[simp] theorem latchedIn_press :
    b.latchedIn (b'.register l) = (decide (b' = b) || b.latchedIn l) := by
  cases b <;> cases b' <;> rfl

@[simp] theorem latchedIn_registerSliders (e : SliderEdits) :
    b.latchedIn (l.registerSliders e) = b.latchedIn l := by
  cases b <;> rfl

@[simp] theorem latchedIn_register (r : PanelResponse) :
    b.latchedIn (l.register r) = (b.clickedIn r || b.latchedIn l) := by
  cases b <;> rfl

@[simp] theorem latchedIn_take :
    b.latchedIn (b'.take l).2 = (!decide (b' = b) && b.latchedIn l) := by
  cases b <;> cases b' <;> rfl

@[simp] theorem latchedIn_takeSliders : b.latchedIn l.takeSliders.2 = b.latchedIn l := by
  cases b <;> rfl

end Buttons

/-- Gathering leaves nothing. -/
@[simp] theorem snd_gather (l : PanelLatches) (keys : Shortcuts) : (l.gather keys).2 = empty := rfl

theorem latchedIn_stepped (b : Button) (l : PanelLatches) (step : LatchStep) :
    b.latchedIn (l.stepped step) = true ↔
      step.presses b ∨ ¬ step.takes b ∧ b.latchedIn l = true := by
  cases step <;> simp [stepped, LatchStep.presses, LatchStep.takes]

/-- A button is latched if it was pressed since it was last taken. -/
theorem latchedIn_after (b : Button) (steps : List LatchStep) :
    b.latchedIn (after steps) = true ↔ Since (·.presses b) (·.takes b) steps :=
  holds_iff_since (b.latchedIn · = true) (by simp) (latchedIn_stepped b) steps

/-! ### Sliders -/

/-- Responses without edits register none. -/
theorem sliders_register (l : PanelLatches) (r : PanelResponse) :
    (l.register r).sliders = l.sliders.merge r.sliders := by
  rw [register]
  split
  · next h =>
    rw [SliderEdits.eq_none_of_isEmpty h]
    rfl
  · rfl

/-- A step takes the slider edits, or it adds its own, if it has any. -/
theorem sliders_stepped (l : PanelLatches) (step : LatchStep) :
    (step.takesEdits ∧ (l.stepped step).sliders = SliderEdits.none ∧
        step.edits = SliderEdits.none) ∨
      (¬ step.takesEdits ∧ (l.stepped step).sliders = l.sliders.merge step.edits) := by
  cases step with
  | press b => exact Or.inr ⟨id, by cases b <;> rfl⟩
  | slide e => exact Or.inr ⟨id, rfl⟩
  | register r => exact Or.inr ⟨id, sliders_register l r⟩
  | take b => exact Or.inr ⟨id, by cases b <;> rfl⟩
  | takeSliders => exact Or.inl ⟨trivial, rfl, rfl⟩
  | gather keys => exact Or.inl ⟨trivial, rfl, rfl⟩

theorem editIn_stepped (s : Slider) (v : s.Value) (l : PanelLatches) (step : LatchStep) :
    s.editIn (l.stepped step).sliders = some v ↔
      s.editIn step.edits = some v ∨ ¬ step.overwrites s ∧ s.editIn l.sliders = some v := by
  rw [LatchStep.overwrites, LatchStep.moves]
  obtain ⟨htakes, hsliders, hedits⟩ | ⟨hkeeps, hsliders⟩ := sliders_stepped l step
  · simp [htakes, hsliders, hedits]
  · simp [hkeeps, hsliders, Option.or_eq_some_iff]

/-- A slider has the value it was last moved to since the edits were last taken. -/
theorem editIn_after (s : Slider) (v : s.Value) (steps : List LatchStep) :
    s.editIn (after steps).sliders = some v ↔
      Since (fun step => s.editIn step.edits = some v) (·.overwrites s) steps :=
  holds_iff_since (fun l => s.editIn l.sliders = some v)
    (by rw [empty, Slider.editIn_none]; exact nofun) (editIn_stepped s v) steps

theorem moved_stepped (s : Slider) (l : PanelLatches) (step : LatchStep) :
    (s.editIn (l.stepped step).sliders).isSome = true ↔
      step.moves s ∨ ¬ step.takesEdits ∧ (s.editIn l.sliders).isSome = true := by
  rw [LatchStep.moves]
  obtain ⟨htakes, hsliders, hedits⟩ | ⟨hkeeps, hsliders⟩ := sliders_stepped l step
  · simp [htakes, hsliders, hedits]
  · simp [hkeeps, hsliders]

/-- A slider that was not moved since then has none. -/
theorem editIn_after_eq_none (s : Slider) (steps : List LatchStep) :
    s.editIn (after steps).sliders = none ↔ ¬ Since (·.moves s) (·.takesEdits) steps := by
  have hmoved := holds_iff_since (fun l => (s.editIn l.sliders).isSome = true)
    (by rw [empty, Slider.editIn_none]; exact nofun) (moved_stepped s) steps
  rw [← hmoved, Bool.not_eq_true, Option.isSome_eq_false_iff, Option.isNone_iff_eq_none]

/-! ### Gathering -/

theorem askedIn_gather (b : Button) (l : PanelLatches) (keys : Shortcuts) :
    b.askedIn (l.gather keys).1 = (b.latchedIn l || b.pressedIn keys) := by
  cases b <;> rfl

theorem fst_take (b : Button) (l : PanelLatches) : (b.take l).1 = b.latchedIn l := by
  cases b <;> rfl

end PanelLatches

/-- The input of a frame with these keys that comes after the response. -/
def PanelResponse.joined (r : PanelResponse) (keys : Shortcuts) : FrameInput where
  regenerate := r.regenerate || keys.regenerate
  toggleGrowth := r.growth || keys.toggleGrowth
  toggleRandom := r.random || keys.toggleRandom
  toggleLeafColor := r.leafColor || keys.toggleLeafColor
  nextRuleSet := keys.nextRuleSet
  previousRuleSet := keys.previousRuleSet
  moreIterations := keys.moreIterations
  fewerIterations := keys.fewerIterations
  sliders := r.sliders

/-- **A response** that was registered alone is gathered as it is, with the keys. -/
theorem PanelLatches.gather_register (r : PanelResponse) (keys : Shortcuts) :
    (PanelLatches.empty.register r).gather keys = (r.joined keys, PanelLatches.empty) := by
  have hsliders : (PanelLatches.empty.register r).sliders = r.sliders :=
    (PanelLatches.sliders_register _ r).trans (SliderEdits.none_merge r.sliders)
  refine Prod.ext ?_ rfl
  simp only [gather, takeRegenerate, takeGrowth, takeRandom, takeLeafColor, takeSliders, hsliders,
    PanelResponse.joined]
  simp only [register, empty, Bool.or_false]

end TurtleTree
