/-
TurtleTree/Proofs/Viewer/Delivery.lean

Panel input reaches the next frame, and no other.

A host that also notes what it is told (`Host.recorded`) shows the turns that a window
takes, and does not change what is played (`Viewer.playFrames_recorded`).  Between two
frames the latches hold the response of one panel, to which the frame before was drawn;
this is the invariant of a run.  Gathering delivers that response and nothing else.

Main result: a gathered input has what was registered since it was last taken, and the
inputs of a session are its keys, each joined with the response of the panel one frame
before (`Viewer.deliversOnce`).
-/
import TurtleTree.Proofs.Number.Magnitude
import TurtleTree.Proofs.Viewer.Latching
import TurtleTree.Viewer.Window

namespace TurtleTree

/-! ### Frame times -/

/-- A number of seconds that is not negative is a duration, if it is below `2 ^ 64`. -/
theorem Duration.exists_ofSingle? {x : Float32} (hx : x.isNaN = false) (hlow : ¬ x < 0)
    (hhigh : ¬ 18446744073709551616 ≤ x) : ∃ d, Duration.ofSingle? x = some d := by
  obtain ⟨hinf, hmagnitude⟩ := Single.magnitude_lt hx hlow hhigh
  have hbound : (Single.magnitude x).scaledHalfEven (10 ^ 9) < 2 ^ 64 * 10 ^ 9 :=
    Magnitude.scaledHalfEven_lt hmagnitude (by decide)
  rw [ofSingle?, hx, hinf]
  exact ⟨_, dif_pos hbound⟩

/-- So a frame time below `2 ^ 64` seconds is one, and so is what is not a number. -/
theorem Viewer.exists_elapsed? {x : Float32} (h : ¬ 18446744073709551616 ≤ x) :
    ∃ d, Viewer.elapsed? x = some d := by
  have hzero : (0 : Float32).isNaN = false := rfl
  have hnone : ∃ d, Duration.ofSingle? 0 = some d :=
    Duration.exists_ofSingle? hzero (by decide +kernel) (by decide +kernel)
  rw [elapsed?, Single.max, hzero]
  rcases hx : x.isNaN with - | -
  · simp only [Bool.false_eq_true, if_false]
    split
    · exact hnone
    · next hlow => exact Duration.exists_ofSingle? hx hlow h
  · exact hnone

/-! ### Turns -/

/-- One update of a host. -/
structure Turn (β : Type) where
  elapsed : Duration
  input : FrameInput
  /-- The picture after the update. -/
  shown : Picture
  note : β

variable {α β : Type}

/-- The host, and for each frame a note of what it was told and what it showed. -/
def Host.recorded (host : Host α β) : Host α (Turn β) where
  update elapsed input state picture :=
    let (state, picture, note) := host.update elapsed input state picture
    (state, picture, ⟨elapsed, input, picture, note⟩)

/-- The user quits with this frame. -/
def Frame.quits (f : Frame) : Bool := (Shortcuts.ofKeys f.keys).quit

namespace Viewer

/-- A frame result without what was recorded. -/
def FrameResult.erased : FrameResult α (Turn β) → FrameResult α β
  | .ended reason => .ended reason
  | .drawn calls turn state => .drawn calls turn.note state

/-- A recording without what was recorded of each turn. -/
def Recording.erased (r : Recording α (Turn β)) : Recording α β where
  frames := r.frames.map fun f => (f.1, f.2.note)
  ending := r.ending
  host := r.host

/-- The response of the panel that a frame draws over the picture, if it draws one. -/
def responded (s : ViewerSettings) (f : Frame) (p : Picture) : PanelResponse :=
  match shownPanel s p with
  | none => PanelResponse.none
  | some view => Overlay.response f.pointer view

variable (s : ViewerSettings) (background : Color) (height : Float32)

theorem playFrame_recorded (host : Host α β) (state : ViewerState α) (f : Frame) :
    playFrame s background host height state f
      = (playFrame s background host.recorded height state f).erased := by
  simp only [playFrame, Host.recorded]
  split
  · rfl
  · split
    · rfl
    · split <;> rfl

/-- Recording changes nothing else. -/
theorem playFrames_recorded (host : Host α β) (state : ViewerState α) (fs : List Frame) :
    playFrames s background host height state fs
      = (playFrames s background host.recorded height state fs).erased := by
  induction fs generalizing state with
  | nil => rfl
  | cons f fs ih =>
    rw [playFrames, playFrames, playFrame_recorded]
    rcases playFrame s background host.recorded height state f with reason | ⟨calls, turn, next⟩
    · rfl
    · simp only [FrameResult.erased, ih]
      rfl

/-! ### One frame -/

/-- A frame that does not end the program joins its keys with the response that is latched,
and latches its own. -/
theorem exists_drawn (host : Host α β) {state : ViewerState α} {f : Frame} {r : PanelResponse}
    {elapsed : Duration} (hlatches : state.latches = PanelLatches.empty.register r)
    (hquits : f.quits = false) (helapsed : elapsed? f.elapsed = some elapsed) :
    ∃ calls turn next, playFrame s background host.recorded height state f
        = .drawn calls turn next ∧
      turn.elapsed = elapsed ∧ turn.input = r.joined (Shortcuts.ofKeys f.keys) ∧
      next.latches = PanelLatches.empty.register (responded s f turn.shown) := by
  have hkeys : (Shortcuts.ofKeys f.keys).quit = false := hquits
  simp only [playFrame, Host.recorded, hkeys, Bool.false_eq_true, if_false, helapsed, hlatches,
    PanelLatches.gather_register]
  split
  · next hpanel =>
    refine ⟨_, _, _, rfl, rfl, rfl, ?_⟩
    rw [responded, hpanel]
    rfl
  · next view hpanel =>
    refine ⟨_, _, _, rfl, rfl, rfl, ?_⟩
    rw [responded, hpanel]

/-! ### All frames -/

/-- **A run** takes one turn for each frame before the user quits, and each turn is told the time
of its frame, and its keys joined with the response that the frame before has latched. -/
theorem turns_playFrames (host : Host α β) {state : ViewerState α} {r : PanelResponse}
    (hlatches : state.latches = PanelLatches.empty.register r) {fs : List Frame}
    (hfs : ∀ f ∈ fs.takeWhile (!·.quits), ¬ 18446744073709551616 ≤ f.elapsed) :
    let kept := fs.takeWhile (!·.quits)
    let recording := playFrames s background host.recorded height state fs
    let turns := recording.frames.map Prod.snd
    let responses := List.zipWith (fun f t => responded s f t.shown) kept turns
    kept.map (elapsed? ·.elapsed) = turns.map (some ·.elapsed) ∧
    turns.map (·.input)
      = List.zipWith PanelResponse.joined (r :: responses) (kept.map (Shortcuts.ofKeys ·.keys)) ∧
    recording.ending = if fs.any (·.quits) then .quit else .closed := by
  induction fs generalizing state r with
  | nil => exact ⟨rfl, rfl, rfl⟩
  | cons f fs ih =>
    rcases hquits : f.quits with - | -
    · have hkept : (f :: fs).takeWhile (!·.quits) = f :: fs.takeWhile (!·.quits) :=
        List.takeWhile_cons_of_pos (by simp [hquits])
      rw [hkept] at hfs
      obtain ⟨hf, hrest⟩ := List.forall_mem_cons.mp hfs
      obtain ⟨elapsed, helapsed⟩ := exists_elapsed? hf
      obtain ⟨calls, turn, next, hdrawn, htime, hinput, hnext⟩ :=
        exists_drawn s background height host hlatches hquits helapsed
      obtain ⟨htimes, hinputs, hending⟩ := ih hnext hrest
      have hplay : playFrames s background host.recorded height state (f :: fs)
          = { playFrames s background host.recorded height next fs with
              frames := (calls, turn)
                :: (playFrames s background host.recorded height next fs).frames } := by
        rw [playFrames, hdrawn]
      simp only [hkept, hplay, List.map_cons, List.zipWith_cons_cons, List.any_cons, hquits,
        Bool.false_or]
      refine ⟨?_, ?_, hending⟩
      · rw [helapsed, htime, htimes]
      · rw [hinput, hinputs]
    · have hkept : (f :: fs).takeWhile (!·.quits) = [] :=
        List.takeWhile_cons_of_neg (by simp [hquits])
      have hkeys : (Shortcuts.ofKeys f.keys).quit = true := hquits
      have hended : playFrame s background host.recorded height state f = .ended .quit := by
        simp only [playFrame, hkeys, if_true]
      have hplay : playFrames s background host.recorded height state (f :: fs)
          = ⟨[], .quit, state.host⟩ := by
        rw [playFrames, hended]
      simp [hkept, hplay, hquits]

/-- **Panel input is delivered once, one frame later.**

Whatever was done to the latches, a frame that gathers them with its keys asks for what a button
does if the key was pressed, or if the button was pressed since it was last taken; taking the
button tells the latter.  It has each slider at the value it was last moved to since the edits
were last taken, and no value for a slider that was not moved since then.  All else it takes
from the keys, and the latches are empty behind it.

In every session at the window whose frames last less than `2 ^ 64` seconds, the host is updated
once for each frame before the first with a quit key, with the time of that frame, and with its
keys joined with the response of the panel that was drawn one frame before; before the first
frame, and where no panel is drawn, there is no response. -/
theorem deliversOnce (steps : List LatchStep) (keys : Shortcuts) (p : Presentation)
    (host : Host α β) (initial : α) (script : Script)
    (h : ∀ f ∈ script.frames.takeWhile (!·.quits), ¬ 18446744073709551616 ≤ f.elapsed) :
    (let latches := PanelLatches.after steps
      let input := (latches.gather keys).1
      (∀ b : Button, b.askedIn input = true ↔
        b.pressedIn keys = true ∨ Since (·.presses b) (·.takes b) steps) ∧
      (∀ b : Button, (b.take latches).1 = true ↔ Since (·.presses b) (·.takes b) steps) ∧
      (∀ (slider : Slider) (v : slider.Value), slider.editIn input.sliders = some v ↔
        Since (fun step => slider.editIn step.edits = some v) (·.overwrites slider) steps) ∧
      (∀ slider : Slider, slider.editIn input.sliders = none ↔
        ¬ Since (·.moves slider) (·.takesEdits) steps) ∧
      latches.takeSliders.1 = input.sliders ∧
      (input.nextRuleSet = keys.nextRuleSet ∧ input.previousRuleSet = keys.previousRuleSet ∧
        input.moreIterations = keys.moreIterations ∧
        input.fewerIterations = keys.fewerIterations) ∧
      (latches.gather keys).2 = PanelLatches.empty) ∧
    (let kept := script.frames.takeWhile (!·.quits)
      let recording := play s p host.recorded initial script
      let turns := recording.frames.map Prod.snd
      let responses := List.zipWith (fun f t => responded s f t.shown) kept turns
      play s p host initial script = recording.erased ∧
      turns.length = kept.length ∧
      kept.map (elapsed? ·.elapsed) = turns.map (some ·.elapsed) ∧
      turns.map (·.input) = List.zipWith PanelResponse.joined
        (PanelResponse.none :: responses) (kept.map (Shortcuts.ofKeys ·.keys)) ∧
      recording.ending = if script.frames.any (·.quits) then .quit else .closed) := by
  refine ⟨⟨?_, ?_, fun slider v => PanelLatches.editIn_after slider v steps,
    fun slider => PanelLatches.editIn_after_eq_none slider steps, rfl, ⟨rfl, rfl, rfl, rfl⟩, rfl⟩,
    ?_⟩
  · intro b
    rw [PanelLatches.askedIn_gather, Bool.or_eq_true, PanelLatches.latchedIn_after, or_comm]
  · intro b
    rw [PanelLatches.fst_take, PanelLatches.latchedIn_after]
  · have hempty : (start s p initial).latches
        = PanelLatches.empty.register PanelResponse.none := rfl
    obtain ⟨htimes, hinputs, hending⟩ :=
      turns_playFrames s p.background script.height host hempty h
    refine ⟨playFrames_recorded s _ _ host _ _, ?_, htimes, hinputs, hending⟩
    have hlength := congrArg List.length htimes
    rw [List.length_map, List.length_map] at hlength
    exact hlength.symm

/-- Two sliders moved in turn and a button taken before the frame, and a click in the first of
two frames. -/
theorem deliversOnce_click :
    let steps : List LatchStep :=
      [.press .growth, .slide { SliderEdits.none with angle := some 10 }, .take .growth,
        .register ⟨true, false, false, false, { SliderEdits.none with angle := some 20 }⟩,
        .slide { SliderEdits.none with leafLength := some 4 }]
    let keys := Shortcuts.ofKeys ["M"]
    let p : Presentation := ⟨"", Color.white, Picture.standard⟩
    let host : Host Unit Unit :=
      ⟨fun _ _ _ p => ((), { p with panel := some (Panel.view .standard) }, ())⟩
    let frame := fun keys clicks => (⟨0.5, keys, ⟨clicks, []⟩⟩ : Frame)
    let script : Script := ⟨900,
      [frame ["Up"] [Overlay.regenerateButton], frame ["Left"] [], frame ["Q"] [], frame [] []]⟩
    let input := ((PanelLatches.after steps).gather keys).1
    (input.regenerate = true ∧ input.toggleGrowth = false ∧ input.toggleRandom = true) ∧
      (input.sliders.angle = some 20 ∧ input.sliders.leafLength = some 4 ∧
        input.sliders.branchWidth = none) ∧
      (((play .standard p host.recorded () script).frames.map Prod.snd).map (·.input)
        = [{ FrameInput.idle with moreIterations := true },
          { FrameInput.idle with previousRuleSet := true, regenerate := true }]) := by
  intro steps keys p host frame script input
  have htimes : ∀ f ∈ script.frames.takeWhile (!·.quits),
      ¬ 18446744073709551616 ≤ f.elapsed := by decide +kernel
  obtain ⟨⟨hbuttons, -, hsliders, -⟩, -, -, -, hinputs, -⟩ :=
    deliversOnce .standard steps keys p host () script htimes
  have hregenerate : input.regenerate = true := (hbuttons .regenerate).mpr <|
    Or.inr ⟨steps.take 3, _, steps.drop 4, rfl, rfl, List.forall_mem_singleton.mpr id⟩
  have hangle : input.sliders.angle = some 20 := (hsliders .angle (20 : Float32)).mpr
    ⟨steps.take 3, _, steps.drop 4, rfl, rfl, List.forall_mem_singleton.mpr (by
      rintro (h | h)
      · exact h
      · exact Bool.false_ne_true h)⟩
  exact ⟨⟨hregenerate, by decide +kernel, by decide +kernel⟩,
    ⟨hangle, by decide +kernel, by decide +kernel⟩, hinputs.trans (by decide +kernel)⟩

end Viewer

end TurtleTree
