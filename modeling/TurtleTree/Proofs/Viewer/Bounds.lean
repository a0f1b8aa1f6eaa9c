/-
TurtleTree/Proofs/Viewer/Bounds.lean

The viewer keeps its parameters in bounds.

The panel and the watch of the grower hold all copies of the parameters.  They are edited
in the panel, toggled in the grower, and captured by runs, hence one lemma for a command
(`Watch.InBounds.next`) and one for a frame (`GrowthSession.InBounds.frame`) carry the
bounds through sessions of any length.  Leaving random mode sets the angle variance to
zero, below the range of its slider.

Main result: parameters that begin in bounds stay there, after every command of every
frame, in the panel, in the grower and in the runs (`GrowthSession.staysInBounds_frames`).
-/
import TurtleTree.Proofs.Panel.Bounds
import TurtleTree.Proofs.Viewer.Frames

namespace TurtleTree

/-! ### Toggles -/

namespace Parameters

theorem InBounds.withGrowthSwitched {p : Parameters} (h : p.InBounds) :
    p.withGrowthSwitched.InBounds := { h with }

/-- Leaving random mode takes the angle variance to zero. -/
theorem InBounds.withRandomSwitched {p : Parameters} (h : p.InBounds) :
    (Grower.withRandomSwitched p).InBounds := by
  rw [Grower.withRandomSwitched]
  split
  · exact { h with angleVariance := ⟨Int.le_refl 0, (by decide : (0 : Int) ≤ 100)⟩ }
  · exact { h with }

end Parameters

/-! ### Commands -/

/-- The command brings no parameters that are out of bounds. -/
def Command.InBounds : Command → Prop
  | .update p => p.InBounds
  | _ => True

/-- The live parameters and the captured ones are in bounds. -/
structure Watch.InBounds (w : Watch) : Prop where
  live : w.live.InBounds
  captured : w.captured.InBounds

namespace Watch

variable {w : Watch} {cs : List Command}

/-- A command keeps the bounds. -/
theorem InBounds.next (h : w.InBounds) {c : Command} (hc : c.InBounds) :
    (w.next (.command c)).InBounds := by
  cases c with
  | regenerate => exact ⟨h.live, h.live⟩
  | toggleGrowth => exact ⟨h.live.withGrowthSwitched, h.live.withGrowthSwitched⟩
  | toggleRandom => exact ⟨h.live.withRandomSwitched, h.live.withRandomSwitched⟩
  | update p => exact ⟨hc, h.captured⟩
  | tick d =>
    show (w.tick d).InBounds
    rcases hfinds : w.finds d with - | -
    · rw [tick_of_not_finds hfinds]
      exact ⟨h.live, h.captured⟩
    · rw [tick_of_finds hfinds]
      exact ⟨h.live, h.live⟩

theorem InBounds.after (h : w.InBounds) (hcs : ∀ c ∈ cs, c.InBounds) :
    (w.after cs).InBounds := by
  induction cs generalizing w with
  | nil => exact h
  | cons c cs ih =>
    obtain ⟨hc, hrest⟩ := List.forall_mem_cons.mp hcs
    exact ih (h.next hc) hrest

/-- A run captures live parameters. -/
theorem InBounds.begun (h : w.InBounds) (hcs : ∀ c ∈ cs, c.InBounds) :
    ∀ p ∈ w.begun cs, p.InBounds := by
  induction cs generalizing w with
  | nil => exact fun p hp => absurd hp List.not_mem_nil
  | cons c cs ih =>
    obtain ⟨hc, hrest⟩ := List.forall_mem_cons.mp hcs
    intro p hp
    rcases List.mem_append.mp hp with hp | hp
    · split at hp
      · rw [List.mem_singleton.mp hp]
        exact (h.next hc).live
      · exact absurd hp List.not_mem_nil
    · exact ih (h.next hc) hrest p hp

end Watch

/-! ### Frames -/

namespace GrowthSession

variable {s : GrowthSession} {elapsed : Duration} {input : FrameInput}

/-- All copies of the parameters are in bounds. -/
structure InBounds (s : GrowthSession) : Prop where
  panel : s.panel.InBounds
  watch : s.grower.watch.InBounds

/-- A frame brings no parameters that are out of bounds. -/
theorem InBounds.commands (h : s.InBounds) (elapsed : Duration)
    (hinput : input.sliders.Numeric) : ∀ c ∈ s.commands elapsed input, c.InBounds := by
  intro c hc
  rcases List.mem_append.mp hc with hc | hc
  · obtain rfl | rfl | rfl | rfl := Panel.cases_of_mem_handle hc
    · exact Panel.inBounds_edited hinput h.panel
    all_goals trivial
  · rw [List.mem_singleton.mp hc]
    trivial

/-- The panel takes over what the grower has. -/
theorem InBounds.frame (h : s.InBounds) (hinput : input.sliders.Numeric) :
    (s.frame elapsed input).2.InBounds := by
  have hwatch : (s.frame elapsed input).2.grower.watch
      = s.grower.watch.after (s.commands elapsed input) := s.grower.watch_applyAll _
  have hbounds : (s.frame elapsed input).2.grower.watch.InBounds := by
    rw [hwatch]
    exact h.watch.after (h.commands elapsed hinput)
  exact ⟨hbounds.live, hbounds⟩

theorem InBounds.frames (h : s.InBounds) {fs : List (Duration × FrameInput)}
    (hfs : ∀ f ∈ fs, f.2.sliders.Numeric) : (s.frames fs).InBounds := by
  induction fs generalizing s with
  | nil => exact h
  | cons f fs ih =>
    obtain ⟨hf, hrest⟩ := List.forall_mem_cons.mp hfs
    exact ih (h.frame hf) hrest

theorem inBounds_opened (config : GrowthConfig) {p : Parameters} (h : p.InBounds) :
    (opened (Grower.begin config p (some SceneStore.empty))).InBounds := by
  have hwatch : (opened (Grower.begin config p (some SceneStore.empty))).grower.watch
      = (Grower.begin config p (some SceneStore.empty)).watch.capture :=
    Grower.watch_regenerate _
  refine ⟨?_, ?_⟩
  · rw [panel_opened]
    exact h
  · rw [hwatch]
    exact ⟨h, h⟩

/-- **The viewer stays in bounds.**  If the parameters are in bounds when the window is opened,
and no slider of any frame is moved to what is not a number, then before and after the edits of
each frame and at its end the panel is in bounds, and after each of its commands so are the live
parameters, the captured ones, and those of every run that these commands have begun. -/
theorem staysInBounds_frames (config : GrowthConfig) {p : Parameters} (h : p.InBounds)
    {fs : List (Duration × FrameInput)} (hfs : ∀ f ∈ fs, f.2.sliders.Numeric)
    (elapsed : Duration) {input : FrameInput} (hinput : input.sliders.Numeric) :
    let s := (opened (Grower.begin config p (some SceneStore.empty))).frames fs
    (s.panel.InBounds ∧ (Panel.handle input s.panel).1.InBounds ∧
      (s.frame elapsed input).2.panel.InBounds) ∧
    ∀ cs, cs <+: s.commands elapsed input →
      (s.grower.applyAll cs).parameters.InBounds ∧
      (s.grower.applyAll cs).buffered.InBounds ∧
      ∀ q ∈ s.grower.begun cs, q.InBounds := by
  intro s
  have hs : s.InBounds := (inBounds_opened config h).frames hfs
  refine ⟨⟨hs.panel, Panel.inBounds_edited hinput hs.panel, (hs.frame hinput).panel⟩, ?_⟩
  intro cs hcommands
  have hcs : ∀ c ∈ cs, c.InBounds := fun c hc =>
    hs.commands elapsed hinput c (hcommands.subset hc)
  have hwatch : (s.grower.applyAll cs).watch.InBounds := by
    rw [Grower.watch_applyAll]
    exact hs.watch.after hcs
  refine ⟨hwatch.live, hwatch.captured, ?_⟩
  rw [Grower.begun_eq]
  exact hs.watch.begun hcs

/-- Sliders moved to infinities and to the least word, in random mode. -/
theorem staysInBounds_frames_infinite :
    let config := GrowthConfig.ofSeed 7
    let p := { Parameters.standard with randomMode := true }
    let input : FrameInput := { FrameInput.idle with
      toggleRandom := true
      sliders := { SliderEdits.none with
        angle := some (Float32.ofBits 0x7f800000)
        leafLength := some (Float32.ofBits 0xff800000)
        angleVariance := some Int32.minValue } }
    let d := Duration.ofMilliseconds 200
    let s := (opened (Grower.begin config p (some SceneStore.empty))).frames [(d, input)]
    (p.InBounds ∧ input.sliders.Numeric) ∧
      (Panel.handle input p).1 = { p with angle := 90, leafLength := 0, angleVariance := 1 } ∧
      s.panel.InBounds ∧
      (s.grower.applyAll (s.commands d input)).parameters.InBounds ∧
      ∀ q ∈ s.grower.begun (s.commands d input), q.InBounds := by
  intro config p input d s
  have hp : p.InBounds := { Parameters.inBounds_standard with }
  have hinput : input.sliders.Numeric := by constructor <;> decide +kernel
  have hfs : ∀ f ∈ [(d, input)], f.2.sliders.Numeric := List.forall_mem_singleton.mpr hinput
  obtain ⟨⟨hpanel, -, -⟩, hcommands⟩ := staysInBounds_frames config hp hfs d hinput
  obtain ⟨hlive, -, hbegun⟩ := hcommands (s.commands d input) List.prefix_rfl
  exact ⟨⟨hp, hinput⟩, by decide +kernel, hpanel, hlive, hbegun⟩

end GrowthSession

end TurtleTree
