/-
TurtleTree/Proofs/Viewer/Frames.lean

What a frame at the window does to the parameters, and which runs it begins.

The panel and the grower each have a copy of the parameters.  A frame edits the
copy of the panel, hands the edits over as one command, and lets the toggles act
on the copy of the grower; then the panel takes that copy over.  Every frame thus
begins with one record of parameters, and the commands of the frame can be gone
through on the watch of the grower alone (`Watch.after_commands`,
`Watch.begun_commands`).

The tick is the last command.  A run that was begun before it has captured the
live parameters, so its poll finds nothing (`Watch.begun_commands_tick`).

Main result: no edit of a frame is lost, and every key begins its own run and no
other (`GrowthSession.editsAndRuns_frames`).
-/
import TurtleTree.Proofs.Growth.Begun
import TurtleTree.Proofs.Panel.Edits
import TurtleTree.Viewer.Session

namespace TurtleTree

/-! ### The commands of the panel -/

namespace Panel

/-- The parameters of the runs that a frame of input asks for, if its edits have made `q`. -/
def runs (input : FrameInput) (q : Parameters) : List Parameters :=
  (if input.toggleGrowth then [q.withGrowthSwitched] else [])
    ++ (if input.toggleRandom then [switched input q] else [])
    ++ (if input.regenerate || input.toggleLeafColor then [switched input q] else [])

/-- The panel publishes its edits or passes a toggle on. -/
theorem cases_of_mem_handle {input : FrameInput} {p : Parameters} {c : Command}
    (hc : c ∈ (handle input p).2) :
    c = .update (edited input p) ∨ c = .toggleGrowth ∨ c = .toggleRandom ∨ c = .regenerate := by
  have hsingle : ∀ {b : Bool} {c' : Command}, c ∈ (if b then [c'] else []) → c = c' := by
    intro b c' h
    split at h
    · exact List.mem_singleton.mp h
    · exact absurd h List.not_mem_nil
  simp only [handle, commands, List.mem_append] at hc
  obtain ((hc | hc) | hc) | hc := hc
  · exact Or.inl (hsingle hc)
  · exact Or.inr (Or.inl (hsingle hc))
  · exact Or.inr (Or.inr (Or.inl (hsingle hc)))
  · exact Or.inr (Or.inr (Or.inr (hsingle hc)))

/-- Time does not pass through the panel. -/
theorem isTick_of_mem_handle {input : FrameInput} {p : Parameters} {c : Command}
    (hc : c ∈ (handle input p).2) : c.isTick = false := by
  obtain rfl | rfl | rfl | rfl := cases_of_mem_handle hc <;> rfl

end Panel

namespace Watch

/-- The commands of a frame on the watch: the live parameters are edited and switched, and a
run, if one is begun, has captured them. -/
theorem after_commands (w : Watch) (input : FrameInput) :
    w.after (Panel.handle input w.live).2 = { w with
      live := Panel.switched input (Panel.published input w.live)
      captured :=
        if (Panel.runs input (Panel.published input w.live)).isEmpty then w.captured
        else Panel.switched input (Panel.published input w.live) } := by
  obtain ⟨interval, live, captured, elapsed⟩ := w
  simp only [Panel.handle, Panel.commands, Panel.runs, Panel.published, Panel.switched]
  -- every command depends on one question, so all answers can be gone through
  rcases Panel.edited input live != live with - | - <;>
    rcases input.toggleGrowth with - | - <;>
    rcases input.toggleRandom with - | - <;>
    rcases input.regenerate || input.toggleLeafColor with - | - <;> rfl

/-- The runs of these commands are those that the frame asks for. -/
theorem begun_commands (w : Watch) (input : FrameInput) :
    w.begun (Panel.handle input w.live).2
      = Panel.runs input (Panel.published input w.live) := by
  obtain ⟨interval, live, captured, elapsed⟩ := w
  simp only [Panel.handle, Panel.commands, Panel.runs, Panel.published, Panel.switched]
  rcases Panel.edited input live != live with - | - <;>
    rcases input.toggleGrowth with - | - <;>
    rcases input.toggleRandom with - | - <;>
    rcases input.regenerate || input.toggleLeafColor with - | - <;> rfl

/-- The tick after them begins a run if there was none, the poll is due and finds an edit. -/
theorem begun_commands_tick (w : Watch) (input : FrameInput) (d : Duration) :
    (w.after (Panel.handle input w.live).2).begun [.tick d]
      = if (Panel.runs input (Panel.published input w.live)).isEmpty
          && (decide (w.interval ≤ w.elapsed + d)
            && (Panel.switched input (Panel.published input w.live)).differsFrom w.captured)
        then [Panel.switched input (Panel.published input w.live)] else [] := by
  rw [after_commands, begun_tick]
  rcases (Panel.runs input (Panel.published input w.live)).isEmpty with - | -
  -- the last of the runs has captured what the tick looks at
  · have hnone : finds { w with
        live := Panel.switched input (Panel.published input w.live)
        captured := Panel.switched input (Panel.published input w.live) } d = false :=
      finds_of_captured rfl d
    exact if_neg (Bool.eq_false_iff.mp hnone)
  · rfl

end Watch

/-! ### Sessions -/

/-- A frame that is drawn has updated its host. -/
theorem Viewer.exists_update_of_drawn {α β : Type} {v : ViewerSettings} {background : Color}
    {host : Host α β} {height : Float32} {state next : ViewerState α} {f : Frame}
    {calls : List DrawCall} {note : β}
    (h : playFrame v background host height state f = .drawn calls note next) :
    ∃ elapsed input picture,
      host.update elapsed input state.host state.picture = (next.host, picture, note) := by
  simp only [playFrame] at h
  split at h
  · exact nomatch h
  · split at h
    · exact nomatch h
    · next elapsed _ =>
      refine ⟨elapsed, (state.latches.gather (Shortcuts.ofKeys f.keys)).1, ?_⟩
      -- the overlay, drawn or not, has no part in the host
      split at h
      all_goals
        obtain ⟨-, rfl, rfl⟩ := h
        exact ⟨_, rfl⟩

namespace GrowthSession

/-- The session at a window that has just been opened: the first tree is begun, and its
reports are taken. -/
def opened (g : Grower SceneStore) : GrowthSession := ofGrower g.regenerate.takeEvents.2

/-- The session after frames, each of which has a length and an input. -/
def frames (s : GrowthSession) (fs : List (Duration × FrameInput)) : GrowthSession :=
  fs.foldl (fun s f => (s.frame f.1 f.2).2) s

/-- The events of frames, frame by frame. -/
def notes (s : GrowthSession) : List (Duration × FrameInput) → List (Array Event)
  | [] => []
  | f :: fs => (s.frame f.1 f.2).1 :: (s.frame f.1 f.2).2.notes fs

/-- The panel shows the parameters of the grower, and no report waits for the host. -/
structure InStep (s : GrowthSession) : Prop where
  panel : s.panel = s.grower.parameters
  outbox : s.grower.outbox = #[]

theorem inStep_opened (g : Grower SceneStore) : (opened g).InStep := ⟨rfl, rfl⟩

/-- The first tree takes the parameters as they are. -/
theorem panel_opened (g : Grower SceneStore) : (opened g).panel = g.parameters :=
  congrArg Watch.live (Grower.watch_regenerate g)

/-- Every frame ends in step. -/
theorem inStep_frame (s : GrowthSession) (elapsed : Duration) (input : FrameInput) :
    (s.frame elapsed input).2.InStep := ⟨rfl, rfl⟩

theorem InStep.frames {s : GrowthSession} (h : s.InStep) (fs : List (Duration × FrameInput)) :
    (s.frames fs).InStep := by
  induction fs generalizing s with
  | nil => exact h
  | cons f fs ih => exact ih (inStep_frame s f.1 f.2)

/-! ### Scripts -/

/-- Whatever is played at the window, its notes are those of frames of the session. -/
theorem exists_frames_of_playFrames (v : ViewerSettings) (background : Color) (height : Float32)
    (state : ViewerState GrowthSession) (script : List Frame) :
    ∃ fs, (Viewer.playFrames v background host height state script).frames.map Prod.snd
        = state.host.notes fs ∧
      (Viewer.playFrames v background host height state script).host = state.host.frames fs := by
  induction script generalizing state with
  | nil => exact ⟨[], rfl, rfl⟩
  | cons f script ih =>
    rw [Viewer.playFrames]
    rcases h : Viewer.playFrame v background host height state f with reason | ⟨calls, note, next⟩
    · exact ⟨[], rfl, rfl⟩
    · obtain ⟨elapsed, input, picture, hupdate⟩ := Viewer.exists_update_of_drawn h
      have hframe : state.host.frame elapsed input = (note, next.host) :=
        Prod.ext (congrArg (fun u => u.2.2) hupdate) (congrArg Prod.fst hupdate)
      obtain ⟨fs, hnotes, hend⟩ := ih next
      refine ⟨(elapsed, input) :: fs, ?_, ?_⟩
      · rw [notes, hframe, ← hnotes]
        rfl
      · show _ = ((state.host.frame elapsed input).2).frames fs
        rw [hframe]
        exact hend

/-! ### One frame -/

section Frame

variable {s : GrowthSession} (h : s.InStep) (elapsed : Duration) (input : FrameInput)
include h

/-- A frame does what it is asked for, after its edits. -/
theorem InStep.panel_frame :
    (s.frame elapsed input).2.panel
      = Panel.switched input (Panel.published input s.panel) := by
  have hlive : s.grower.watch.live = s.panel := h.panel.symm
  have hcommands := s.grower.watch.after_commands input
  rw [hlive] at hcommands
  have hwatch := s.grower.watch_applyAll (s.commands elapsed input)
  rw [commands, Watch.after_append, hcommands] at hwatch
  exact (congrArg Watch.live hwatch).trans (Watch.live_tick _ elapsed)

/-- The runs of a frame. -/
theorem InStep.begun_frame :
    s.grower.begun (s.commands elapsed input)
      = Panel.runs input (Panel.published input s.panel)
        ++ (s.grower.watch.after (Panel.handle input s.panel).2).begun [.tick elapsed] := by
  have hlive : s.grower.watch.live = s.panel := h.panel.symm
  have hcommands := s.grower.watch.begun_commands input
  rw [hlive] at hcommands
  rw [Grower.begun_eq, commands, Watch.begun_append, hcommands]

/-- The announcements of a frame. -/
theorem InStep.announced_frame :
    (s.frame elapsed input).1.toList.filter Event.isAnnouncement
      = (Panel.runs input (Panel.published input s.panel)).map Parameters.startEvent
        ++ ((s.grower.watch.after (Panel.handle input s.panel).2).begun [.tick elapsed]).flatMap
          fun p => [.parametersChanged, p.startEvent] := by
  have hlive : s.grower.watch.live = s.panel := h.panel.symm
  have hcommands := s.grower.watch.begun_commands input
  rw [hlive] at hcommands
  have hnone : s.grower.announced = [] := by
    rw [Grower.announced, h.outbox]
    rfl
  show (s.grower.applyAll (s.commands elapsed input)).announced = _
  rw [commands, Grower.announced_applyAll_tick (fun _ => Panel.isTick_of_mem_handle),
    hnone, hcommands, List.nil_append]

/-- The run that the poll of a frame begins, if there is one. -/
theorem InStep.polled_frame :
    (s.grower.watch.after (Panel.handle input s.panel).2).begun [.tick elapsed]
      = if (Panel.runs input (Panel.published input s.panel)).isEmpty
          && (decide (s.grower.config.pollInterval ≤ s.grower.pollElapsed + elapsed)
            && (s.frame elapsed input).2.panel.differsFrom s.grower.buffered)
        then [(s.frame elapsed input).2.panel] else [] := by
  have hlive : s.grower.watch.live = s.panel := h.panel.symm
  have htick := s.grower.watch.begun_commands_tick input elapsed
  rw [hlive] at htick
  rw [htick, h.panel_frame elapsed input]
  rfl

end Frame

/-! ### All frames -/

/-- **No edit is lost, and no run is doubled.**  After any frames of a session that any
parameters have opened, the panel shows the live parameters, and one more frame of any length
and input

* leaves both at what it asks for, up to the signs of zeros;
* asks for nothing out of the range of a slider that was moved;
* keeps a value that a slider was moved to if it is in the range, brings any other to the nearer
  bound, and leaves the values of the other sliders alone;
* makes its edits first, then the toggles;
* begins, in this order and each after the edits, one run for the growth key, one for the
  random key and one for the keys that only regenerate, and announces these runs;
* begins one run more exactly if it has begun none, the poll is due and the edited parameters
  differ from those of the last run; then it announces the edit and the run. -/
theorem editsAndRuns_frames (config : GrowthConfig) (p : Parameters)
    (fs : List (Duration × FrameInput)) (elapsed : Duration) (input : FrameInput) :
    let s := (opened (Grower.begin config p (some SceneStore.empty))).frames fs
    let next := (s.frame elapsed input).2
    let published := Panel.published input s.panel
    let runs := Panel.runs input published
    let found :=
      if runs.isEmpty && (decide (s.grower.config.pollInterval ≤ s.grower.pollElapsed + elapsed)
        && next.panel.differsFrom s.grower.buffered) then [next.panel] else []
    s.panel = s.grower.parameters ∧
    next.panel = next.grower.parameters ∧
    (Panel.asked input s.panel).SameUpToZero next.panel ∧
    Panel.InRanges input.sliders (s.panel.randomMode && !input.toggleRandom)
      (Panel.asked input s.panel) ∧
    Panel.FollowsSliders input.sliders (s.panel.randomMode && !input.toggleRandom) s.panel
      (Panel.asked input s.panel) ∧
    (Panel.edited input s.panel).SameUpToZero published ∧
    next.panel = Panel.switched input published ∧
    s.grower.begun (s.commands elapsed input) = runs ++ found ∧
    (s.frame elapsed input).1.toList.filter Event.isAnnouncement
      = runs.map Parameters.startEvent
        ++ found.flatMap fun p => [.parametersChanged, p.startEvent] := by
  intro s next published runs found
  have hstep : s.InStep := (inStep_opened _).frames fs
  have hnext : next.panel = Panel.switched input published := hstep.panel_frame elapsed input
  have hfound := hstep.polled_frame elapsed input
  refine ⟨hstep.panel, rfl, ?_, Panel.inRanges_asked input s.panel,
    Panel.followsSliders_asked input s.panel, Panel.sameUpToZero_published input s.panel, hnext,
    ?_, ?_⟩
  · rw [hnext]
    exact Panel.sameUpToZero_asked input s.panel
  · rw [hstep.begun_frame elapsed input, hfound]
  · rw [hstep.announced_frame elapsed input, hfound]

end GrowthSession

end TurtleTree
