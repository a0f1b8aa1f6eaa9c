/-
TurtleTree/Proofs/Growth/Begun.lean

The runs that begin along commands.

A command begins one run or none, and a run captures the live parameters.  Both
are told from the watch of the grower, so the parameters of all runs that begin
along commands are a list that the watch computes (`Watch.begun`).

Main results: the list is that of the runs which the grower reports
(`Grower.begun_eq`), and these reports are all that a grower announces, each one
after the notice of the poll if it was a poll that began the run
(`Grower.announced_applyAll`, `Grower.announced_applyAll_tick`).
-/
import TurtleTree.Proofs.Growth.Polling

namespace TurtleTree

/-- The report that a run of these parameters began. -/
def Parameters.startEvent (p : Parameters) : Event :=
  .regenerationStarted p.ruleSet p.iterations p.growthMode

namespace Watch

/-- The request begins a new run. -/
def begins (w : Watch) : Request → Bool
  | .command .regenerate => true
  | .command .toggleGrowth => true
  | .command .toggleRandom => true
  | .command (.update _) => false
  | .command (.tick d) => w.finds d
  | .cancel => false

/-- The watch after commands. -/
def after (w : Watch) (cs : List Command) : Watch := (cs.map Request.command).foldl next w

/-- The parameters of the runs that begin along commands. -/
def begun (w : Watch) : List Command → List Parameters
  | [] => []
  | c :: cs =>
    (if w.begins (.command c) then [(w.next (.command c)).live] else [])
      ++ (w.next (.command c)).begun cs

theorem after_append (w : Watch) (cs ds : List Command) :
    w.after (cs ++ ds) = (w.after cs).after ds := by
  rw [after, List.map_append, List.foldl_append]
  rfl

theorem begun_append (w : Watch) (cs ds : List Command) :
    w.begun (cs ++ ds) = w.begun cs ++ (w.after cs).begun ds := by
  induction cs generalizing w with
  | nil => rfl
  | cons c cs ih =>
    rw [List.cons_append, begun, begun, ih, List.append_assoc]
    rfl

/-- A run captures the live parameters. -/
theorem captured_of_begins {w : Watch} {r : Request} (h : w.begins r = true) :
    (w.next r).captured = (w.next r).live := by
  rcases r with (_ | _ | _ | p | d) | -
  case command.update => exact Bool.noConfusion h
  case command.tick =>
    show (w.tick d).captured = (w.tick d).live
    rw [tick_of_finds h]
  case cancel => exact Bool.noConfusion h
  all_goals rfl

/-- A tick leaves the live parameters alone. -/
theorem live_tick (w : Watch) (d : Duration) : (w.tick d).live = w.live := by
  rw [tick]
  split <;> rfl

theorem begun_tick (w : Watch) (d : Duration) :
    w.begun [.tick d] = if w.finds d then [w.live] else [] := by
  have hlive : (w.next (.command (.tick d))).live = w.live := live_tick w d
  rw [begun, begun, List.append_nil, hlive]
  rfl

end Watch

namespace Grower

variable {σ : Type} [Scene σ]

omit [Scene σ] in
theorem regenerates_eq_begins (g : Grower σ) (r : Request) :
    g.regenerates r = g.watch.begins r := by
  rcases r with (_ | _ | _ | p | d) | - <;> rfl

theorem applyAll_eq_respondAll (g : Grower σ) (cs : List Command) :
    g.applyAll cs = g.respondAll (cs.map Request.command) := by
  rw [applyAll, respondAll, List.foldl_map]
  rfl

theorem watch_applyAll (g : Grower σ) (cs : List Command) :
    (g.applyAll cs).watch = g.watch.after cs := by
  rw [applyAll_eq_respondAll, watch_respondAll]
  rfl

/-- The parameters of the runs that are reported to begin along commands. -/
def begun (g : Grower σ) : List Command → List Parameters
  | [] => []
  | c :: cs =>
    (if g.beginsRun (.command c) then [(g.apply c).buffered] else []) ++ (g.apply c).begun cs

/-- **The runs of a grower** are told from its watch. -/
theorem begun_eq (g : Grower σ) (cs : List Command) : g.begun cs = g.watch.begun cs := by
  induction cs generalizing g with
  | nil => rfl
  | cons c cs ih =>
    have hwatch : (g.apply c).watch = g.watch.next (.command c) := watch_respond g (.command c)
    rw [begun, Watch.begun, ih, hwatch, beginsRun_eq, regenerates_eq_begins]
    refine congrArg (· ++ _) ?_
    split
    · next h =>
      have hcaptured : (g.apply c).buffered = (g.watch.next (.command c)).captured :=
        congrArg Watch.captured hwatch
      rw [hcaptured, Watch.captured_of_begins h]
    · rfl

/-! ### What is announced along commands -/

/-- A regeneration announces its start. -/
theorem announced_regenerate (g : Grower σ) :
    g.regenerate.announced = g.announced ++ [g.parameters.startEvent] := by
  obtain ⟨n, hn⟩ := exists_regenerate_eq g
  rw [hn, announced_advanceTimes_sown]
  rfl

/-- A command other than a tick announces the run that it begins. -/
theorem announced_apply {c : Command} (hc : c.isTick = false) (g : Grower σ) :
    (g.apply c).announced = g.announced ++ (g.watch.begun [c]).map Parameters.startEvent := by
  cases c with
  | regenerate => exact announced_regenerate g
  | toggleGrowth => exact announced_regenerate _
  | toggleRandom => exact announced_regenerate _
  | update p => exact (List.append_nil _).symm
  | tick d => exact Bool.noConfusion hc

/-- A tick announces an edit, with the run that takes it over. -/
theorem announced_apply_tick (g : Grower σ) (d : Duration) :
    (g.apply (.tick d)).announced = g.announced
      ++ (g.watch.begun [.tick d]).flatMap fun p => [.parametersChanged, p.startEvent] := by
  show (g.tick d).announced = _
  rw [Watch.begun_tick]
  rcases h : g.pollFinds d with - | -
  · have hfinds : g.watch.finds d = false := h
    obtain ⟨e, he⟩ := tick_of_not_pollFinds h
    rw [he, hfinds]
    exact ((works_advance _).announced).trans (List.append_nil _).symm
  · have hfinds : g.watch.finds d = true := h
    rw [tick_of_pollFinds h, (works_advance _).announced, announced_regenerate, announced,
      noticed_outbox, List.filter_append, List.append_assoc, hfinds]
    rfl

/-- Commands without a tick announce the runs that they begin, and nothing else. -/
theorem announced_applyAll {cs : List Command} (hcs : ∀ c ∈ cs, c.isTick = false)
    (g : Grower σ) :
    (g.applyAll cs).announced
      = g.announced ++ (g.watch.begun cs).map Parameters.startEvent := by
  induction cs generalizing g with
  | nil => exact (List.append_nil _).symm
  | cons c cs ih =>
    obtain ⟨hc, hrest⟩ := List.forall_mem_cons.mp hcs
    have hwatch : (g.apply c).watch = g.watch.after [c] := watch_respond g (.command c)
    show ((g.apply c).applyAll cs).announced = _
    rw [ih hrest, announced_apply hc, hwatch, List.append_assoc, ← List.map_append,
      ← Watch.begun_append]
    rfl

/-- A tick after them may add a run of its own. -/
theorem announced_applyAll_tick {cs : List Command} (hcs : ∀ c ∈ cs, c.isTick = false)
    (g : Grower σ) (d : Duration) :
    (g.applyAll (cs ++ [.tick d])).announced
      = g.announced ++ (g.watch.begun cs).map Parameters.startEvent
        ++ ((g.watch.after cs).begun [.tick d]).flatMap
          fun p => [.parametersChanged, p.startEvent] := by
  have hlast : g.applyAll (cs ++ [.tick d]) = (g.applyAll cs).apply (.tick d) := by
    rw [applyAll, List.foldl_append]
    rfl
  rw [hlast, announced_apply_tick, announced_applyAll hcs, watch_applyAll]

end Grower

end TurtleTree
