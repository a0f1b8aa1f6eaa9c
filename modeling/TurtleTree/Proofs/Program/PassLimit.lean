/-
TurtleTree/Proofs/Program/PassLimit.lean

The limit on the passes of a tree, from the command line to the last frame.

The grower takes any number of passes, so everything depends on the numbers it is
sent.  The first comes from a task, and a task that is resolved keeps to the limit.
The others come from the panel, which moves the number into a range that ends at
the limit (`Panel.iterations_edited_le`); a number from a task that the panel has
not touched keeps to the limit as well.  Hence a whole session keeps to it
(`GrowthSession.within_notes`).

Main result: no report of any work goes beyond the limit, and whatever asks for more
is refused before there is any work (`Task.passLimit`).
-/
import TurtleTree.Program.Outcome
import TurtleTree.Proofs.Growth.PassLimit
import TurtleTree.Proofs.Panel.Bounds
import TurtleTree.Proofs.Program.Refusal
import TurtleTree.Proofs.Viewer.Frames

namespace TurtleTree

open Parameters (maxIterations)

/-! ### The panel -/

namespace Panel

/-- Edits keep to the limit. -/
theorem iterations_edited_le (input : FrameInput) {p : Parameters}
    (hp : p.iterations ≤ maxIterations) : (edited input p).iterations ≤ maxIterations := by
  have hmore : ∀ n, n ≤ maxIterations → onePassMore n ≤ maxIterations :=
    fun _ _ => (choosable_clampedPasses _).2
  have hfewer : ∀ n, n ≤ maxIterations → onePassFewer n ≤ maxIterations :=
    fun _ _ => (choosable_clampedPasses _).2
  have hasked := stepped_keeps (P := (· ≤ maxIterations)) hmore input.moreIterations hp
  rw [edited_eq]
  exact stepped_keeps (P := (· ≤ maxIterations)) hfewer input.fewerIterations hasked

theorem within_of_mem_handle {input : FrameInput} {p : Parameters}
    (hp : p.iterations ≤ maxIterations) {c : Command} (hc : c ∈ (handle input p).2) :
    c.Within maxIterations := by
  obtain rfl | rfl | rfl | rfl := cases_of_mem_handle hc
  · exact iterations_edited_le input hp
  · exact trivial
  · exact trivial
  · exact trivial

end Panel

/-! ### Sessions -/

namespace GrowthSession

/-- A session that keeps to the limit. -/
structure Limited (s : GrowthSession) : Prop where
  grower : s.grower.Limited maxIterations
  panel : s.panel.iterations ≤ maxIterations

/-- A frame keeps to the limit, and so do its reports. -/
theorem Limited.frame {s : GrowthSession} (h : s.Limited) (elapsed : Duration)
    (input : FrameInput) :
    (s.frame elapsed input).2.Limited ∧
      ∀ e ∈ (s.frame elapsed input).1, e.Within maxIterations := by
  have hcommands : ∀ c ∈ s.commands elapsed input, c.Within maxIterations := by
    intro c hc
    rcases List.mem_append.mp hc with hc | hc
    · exact Panel.within_of_mem_handle h.panel hc
    · rw [List.mem_singleton.mp hc]
      exact trivial
  have hgrower := h.grower.applyAll hcommands
  exact ⟨⟨Grower.limited_takeEvents hgrower, hgrower.live⟩, hgrower.reports⟩

theorem Limited.frames {s : GrowthSession} (h : s.Limited) (fs : List (Duration × FrameInput)) :
    (s.frames fs).Limited := by
  induction fs generalizing s with
  | nil => exact h
  | cons f fs ih => exact ih (h.frame f.1 f.2).1

/-- A session keeps to the limit if its first parameters do. -/
theorem limited_opened {g : Grower SceneStore} (h : g.Limited maxIterations) :
    (opened g).Limited :=
  ⟨Grower.limited_takeEvents h.regenerate, h.regenerate.live⟩

/-- Frames keep to the limit. -/
theorem within_notes {s : GrowthSession} (h : s.Limited) (fs : List (Duration × FrameInput)) :
    ∀ note ∈ s.notes fs, ∀ e ∈ note, e.Within maxIterations := by
  induction fs generalizing s with
  | nil => exact fun note hnote => absurd hnote List.not_mem_nil
  | cons f fs ih =>
    obtain ⟨hnext, hfirst⟩ := h.frame f.1 f.2
    intro note hnote
    rcases List.mem_cons.mp hnote with rfl | hnote
    · exact hfirst
    · exact ih hnext note hnote

end GrowthSession

/-! ### Tasks -/

namespace Task

/-- The reports of growing a tree without a window. -/
def harvestEvents (t : Task) : List Event := t.grower.growHeadless.takeEvents.1.toList

/-- The reports of a session at a window: those before it opens, and those of its frames. -/
def sessionEvents (t : Task) (fs : List (Duration × FrameInput)) : List Event :=
  t.grower.regenerate.takeEvents.1.toList
    ++ ((GrowthSession.opened t.grower).notes fs).flatMap Array.toList

/-- The reports of all the work of a task. -/
def events (t : Task) (script : Script) : List Event :=
  if t.arguments.view then
    t.grower.regenerate.takeEvents.1.toList
      ++ ((t.viewing script).recording.frames.map Prod.snd).flatMap Array.toList
  else t.harvestEvents

/-- A script that is played makes a session of frames. -/
theorem exists_sessionEvents (t : Task) (script : Script) :
    ∃ fs, ((t.viewing script).recording.frames.map Prod.snd).flatMap Array.toList
      = ((GrowthSession.opened t.grower).notes fs).flatMap Array.toList := by
  obtain ⟨fs, hnotes, -⟩ := GrowthSession.exists_frames_of_playFrames viewerSettings
    t.presentation.background script.height
    (Viewer.start viewerSettings t.presentation (GrowthSession.opened t.grower)) script.frames
  exact ⟨fs, congrArg (List.flatMap Array.toList) hnotes⟩

section Limited

variable {t : Task} (h : t.parameters.iterations ≤ maxIterations)
include h

theorem limited_grower : t.grower.Limited maxIterations := Grower.limited_begin h

theorem within_harvestEvents : ∀ e ∈ t.harvestEvents, e.Within maxIterations := by
  intro e he
  have hgrown := (limited_grower h).regenerate.tickToEnd Grower.headlessFrame
  exact hgrown.reports e (Array.mem_toList_iff.mp he)

theorem within_sessionEvents (fs : List (Duration × FrameInput)) :
    ∀ e ∈ t.sessionEvents fs, e.Within maxIterations := by
  have hfirst := (limited_grower h).regenerate
  have hopened := GrowthSession.limited_opened (limited_grower h)
  intro e he
  rcases List.mem_append.mp he with he | he
  · exact hfirst.reports e (Array.mem_toList_iff.mp he)
  · obtain ⟨note, hnote, he⟩ := List.mem_flatMap.mp he
    exact GrowthSession.within_notes hopened fs note hnote e (Array.mem_toList_iff.mp he)

theorem within_events (script : Script) : ∀ e ∈ t.events script, e.Within maxIterations := by
  rw [events]
  split
  · obtain ⟨fs, hfs⟩ := exists_sessionEvents t script
    rw [hfs]
    exact within_sessionEvents h fs
  · exact within_harvestEvents h

end Limited

/-- **No run makes more passes than are supported.**  A task that is resolved from any command
line and any file

* reports no run of more passes and no pass beyond them, whether it grows its tree without a
  window, or with one in which a session of any frames is held or a script is played;

and more passes are refused

* on the command line, whatever stands before and after them;
* in a file of settings, whatever else the command line says;
* in a share string that is imported, whatever else the command line and the file say. -/
theorem passLimit :
    (∀ {arguments : List String} {a : Arguments} {file : Option (List UInt8)} {t : Task},
      Arguments.parse arguments = .ok a → resolve a file = .ok t →
      (∀ e ∈ t.harvestEvents, e.Within maxIterations) ∧
      (∀ fs, ∀ e ∈ t.sessionEvents fs, e.Within maxIterations) ∧
      (∀ script, ∀ e ∈ t.events script, e.Within maxIterations)) ∧
    (∀ {text : String} {n : Int},
      ArgumentText.int? text = some n → (maxIterations.toNat : Int) < n →
      ∀ before after, ∀ form ∈ Arguments.iterationsForms text,
        ∃ e, Arguments.parse (before ++ (form ++ after)) = .error e) ∧
    (∀ {a : Arguments} {path : String} {file : Option (List UInt8)} {n : Int},
      a.config = some path → Settings.requested? file = some n →
      (maxIterations.toNat : Int) < n → ∃ e, resolve a file = .error (.settings e)) ∧
    (∀ {a : Arguments} {text : String} {n : Int},
      a.importing = some text → Share.requested? text = some n →
      (maxIterations.toNat : Int) < n → ∀ file, ∃ e, resolve a file = .error e) := by
  refine ⟨?_, ?_, ?_, ?_⟩
  · intro arguments a file t hparse hresolve
    have hfew := iterations_le_of_resolve hparse hresolve
    exact ⟨within_harvestEvents hfew, within_sessionEvents hfew, within_events hfew⟩
  · intro text n hn hmany before after
    exact Arguments.exists_error_of_requested hn hmany before after
  · intro a path file n hconfig hn hmany
    exact exists_error_of_settings hconfig hn hmany
  · intro a text n himport hn hmany
    exact exists_error_of_import himport hn hmany

/-- Seven passes are made, and eight are refused from every source, although a small number
on the command line comes before that of a file or a share string.  The payload of the share
string is the object with eight for its only member, under `iterations`. -/
theorem passLimit_overridden :
    let most := { Arguments.none with iterations := some 7, view := true }
    let few := { Arguments.none with iterations := some 1 }
    let text := "arbor:v1:eyJpdGVyYXRpb25zIjo4fQ"
    let file := Octets.ofChars "iterations = 8".toList
    (Arguments.parse ["--iterations", "7", "--view"] = .ok most ∧
      ∀ script, ∀ e ∈ events
        ⟨most, Settings.standard, { Parameters.standard with iterations := 7 }⟩ script,
        e.Within maxIterations) ∧
    (∃ e, Arguments.parse ["--share", "--iterations", "8", "--view"] = .error e) ∧
    (∃ e, resolve { few with config := some "tree.toml" } (some file) = .error (.settings e)) ∧
    (∃ e, resolve { few with importing := some text } none = .error e) := by
  intro most few text file
  obtain ⟨hkept, hflag, hfile, hshare⟩ := passLimit
  have hparse : Arguments.parse ["--iterations", "7", "--view"] = .ok most := by decide +kernel
  have hresolve : resolve most none
      = .ok ⟨most, Settings.standard, { Parameters.standard with iterations := 7 }⟩ := by
    decide +kernel
  have hword : ArgumentText.int? "8" = some 8 := by decide +kernel
  have hasked : Settings.requested? (some file) = some 8 := by decide +kernel
  have himported : Share.requested? text = some 8 := by decide +kernel
  have hmany : (maxIterations.toNat : Int) < 8 := by decide
  refine ⟨⟨hparse, (hkept hparse hresolve).2.2⟩, ?_, ?_, ?_⟩
  · exact hflag hword hmany ["--share"] ["--view"] ["--iterations", "8"] List.mem_cons_self
  · exact hfile rfl hasked hmany
  · exact hshare rfl himported hmany none

end Task

end TurtleTree
