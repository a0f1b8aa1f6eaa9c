/-
TurtleTree/Proofs/Growth/Watch.lean

The part of a grower that a poll looks at.

It has four values (`Watch`), and a request takes these four to the next four
whatever else the grower holds (`watch_respond`): work, stops and emissions have
no part in them, a new run only captures the live parameters, and ticks alone
move the timer.  So what a poll finds in a grower with any history is found in a
machine that has no scene, no run and no reports.

The timer adds up the ticks since the last poll (`Watch.elapsed_foldl`), and a
watch without an edit stays without one (`Watch.captured_foldl`).
-/
import TurtleTree.Proofs.Growth.Work
import TurtleTree.Proofs.Number.Difference

namespace TurtleTree

/-! ### Sums of durations -/

namespace Duration

/-- Nanoseconds of durations one after the other. -/
def span : List Duration → Nat
  | [] => 0
  | d :: ds => d.nanoseconds + span ds

/-- Sum of durations that stops at the longest one. -/
def total (ds : List Duration) : Duration := saturating (span ds)

theorem span_append (ds es : List Duration) : span (ds ++ es) = span ds + span es := by
  induction ds with
  | nil => exact (Nat.zero_add _).symm
  | cons d ds ih => rw [List.cons_append, span, span, ih, Nat.add_assoc]

theorem eq_of_nanoseconds {a b : Duration} (h : a.nanoseconds = b.nanoseconds) : a = b := by
  obtain ⟨m, hm⟩ := a
  obtain ⟨n, hn⟩ := b
  obtain rfl : m = n := h
  rfl

theorem nanoseconds_saturating (n : Nat) :
    (saturating n).nanoseconds = min n (2 ^ 64 * 10 ^ 9 - 1) := by
  rcases Nat.lt_or_ge n (2 ^ 64 * 10 ^ 9) with h | h
  · rw [saturating, dif_pos h]
    show n = _
    omega
  · rw [saturating, dif_neg (by omega)]
    show 2 ^ 64 * 10 ^ 9 - 1 = _
    omega

/-- Durations may be added one by one. -/
theorem total_concat (ds : List Duration) (d : Duration) : total (ds ++ [d]) = total ds + d := by
  refine eq_of_nanoseconds ?_
  show (saturating _).nanoseconds
    = (saturating ((saturating (span ds)).nanoseconds + d.nanoseconds)).nanoseconds
  have hspan : span (ds ++ [d]) = span ds + d.nanoseconds := span_append ds [d]
  simp only [nanoseconds_saturating, hspan]
  omega

/-- A wait that has begun does not get shorter. -/
theorem total_le_append (ds es : List Duration) : total ds ≤ total (ds ++ es) := by
  show (saturating _).nanoseconds ≤ (saturating _).nanoseconds
  simp only [nanoseconds_saturating, span_append]
  omega

theorem le_trans {a b c : Duration} (hab : a ≤ b) (hbc : b ≤ c) : a ≤ c :=
  Nat.le_trans hab hbc

/-- The ticks since the last poll, after a request more.  A tick that reaches the interval
makes a poll. -/
def waitAfter (interval : Duration) (ds : List Duration) : Request → List Duration
  | .command (.tick d) => if interval ≤ total (ds ++ [d]) then [] else ds ++ [d]
  | _ => ds

/-- The ticks since the last poll, or since the beginning. -/
def waited (interval : Duration) (rs : List Request) : List Duration :=
  rs.foldl (waitAfter interval) []

end Duration

open Duration (total waitAfter waited)

/-! ### Kinds of requests and reports -/

/-- The command edits the live parameters. -/
def Command.isUpdate : Command → Bool
  | .update _ => true
  | _ => false

/-- The request edits the live parameters. -/
def Request.isUpdate : Request → Bool
  | .command c => c.isUpdate
  | .cancel => false

/-- The report says that a run began. -/
def Event.isStart : Event → Bool
  | .regenerationStarted _ _ _ => true
  | _ => false

/-- The report says that edited parameters were found, or that a run began. -/
def Event.isAnnouncement : Event → Bool
  | .parametersChanged => true
  | e => e.isStart

/-! ### What a poll looks at -/

/-- The values that decide when a poll is due and what it finds. -/
structure Watch where
  interval : Duration
  /-- Live parameters. -/
  live : Parameters
  /-- Parameters of the last run that was begun. -/
  captured : Parameters
  /-- Time since the last poll. -/
  elapsed : Duration

namespace Watch

/-- The live parameters are those of a new run. -/
def capture (w : Watch) : Watch := { w with captured := w.live }

/-- A tick of this length makes a poll, and the poll finds edited parameters. -/
def finds (w : Watch) (d : Duration) : Bool :=
  decide (w.interval ≤ w.elapsed + d) && w.live.differsFrom w.captured

/-- The time since the last poll, after a tick. -/
def elapsedAfter (w : Watch) (d : Duration) : Duration :=
  if w.interval ≤ w.elapsed + d then Duration.zero else w.elapsed + d

/-- What a tick does to the watch. -/
def tick (w : Watch) (d : Duration) : Watch :=
  let w' := { w with elapsed := w.elapsedAfter d }
  if w.finds d then w'.capture else w'

/-- What a request does to the watch. -/
def next (w : Watch) : Request → Watch
  | .command .regenerate => w.capture
  | .command .toggleGrowth =>
    { w with live := { w.live with growthObserved := !w.live.growthObserved } }.capture
  | .command .toggleRandom => { w with live := Grower.withRandomSwitched w.live }.capture
  | .command (.update p) => { w with live := p }
  | .command (.tick d) => w.tick d
  | .cancel => w

theorem tick_of_finds {w : Watch} {d : Duration} (h : w.finds d = true) :
    w.tick d = { w with captured := w.live, elapsed := w.elapsedAfter d } := if_pos h

theorem tick_of_not_finds {w : Watch} {d : Duration} (h : w.finds d = false) :
    w.tick d = { w with elapsed := w.elapsedAfter d } :=
  if_neg (Bool.eq_false_iff.mp h)

@[simp] theorem interval_tick (w : Watch) (d : Duration) : (w.tick d).interval = w.interval := by
  rw [tick]
  split <;> rfl

@[simp] theorem elapsed_tick (w : Watch) (d : Duration) :
    (w.tick d).elapsed = w.elapsedAfter d := by
  rw [tick]
  split <;> rfl

@[simp] theorem interval_next (w : Watch) (r : Request) : (w.next r).interval = w.interval := by
  rcases r with (_ | _ | _ | p | d) | -
  case command.tick => exact interval_tick w d
  all_goals rfl

/-- The timer counts the ticks since the last poll. -/
theorem elapsed_next {w : Watch} {ds : List Duration} (h : w.elapsed = total ds) (r : Request) :
    (w.next r).elapsed = total (waitAfter w.interval ds r) := by
  rcases r with (_ | _ | _ | p | d) | -
  case command.tick =>
    show (w.tick d).elapsed = total (if _ then _ else _)
    rw [elapsed_tick, elapsedAfter, h, ← Duration.total_concat]
    split <;> rfl
  all_goals exact h

theorem elapsed_foldl {w : Watch} {ds : List Duration} (h : w.elapsed = total ds)
    (rs : List Request) :
    (rs.foldl next w).elapsed = total (rs.foldl (waitAfter w.interval) ds) := by
  induction rs generalizing w ds with
  | nil => exact h
  | cons r rs ih =>
    have := ih (elapsed_next h r)
    rwa [interval_next] at this

theorem interval_foldl (w : Watch) (rs : List Request) :
    (rs.foldl next w).interval = w.interval := by
  induction rs generalizing w with
  | nil => rfl
  | cons r rs ih => exact (ih (w.next r)).trans (interval_next w r)

/-- Without an edit there is nothing to find. -/
theorem finds_of_captured {w : Watch} (h : w.live = w.captured) (d : Duration) :
    w.finds d = false := by
  rw [finds, h, Parameters.differsFrom_self, Bool.and_false]

/-- Only an edit sets the live parameters apart from the captured ones. -/
theorem captured_next {w : Watch} (h : w.live = w.captured) {r : Request}
    (hr : r.isUpdate = false) : (w.next r).live = (w.next r).captured := by
  rcases r with (_ | _ | _ | p | d) | -
  case command.update => exact absurd hr Bool.noConfusion
  case command.tick =>
    show (w.tick d).live = (w.tick d).captured
    rw [tick_of_not_finds (finds_of_captured h d)]
    exact h
  case cancel => exact h
  all_goals rfl

theorem captured_foldl {w : Watch} (h : w.live = w.captured) {rs : List Request}
    (hrs : ∀ r ∈ rs, r.isUpdate = false) :
    (rs.foldl next w).live = (rs.foldl next w).captured := by
  induction rs generalizing w with
  | nil => exact h
  | cons r rs ih =>
    exact ih (captured_next h (hrs r List.mem_cons_self)) fun q hq =>
      hrs q (List.mem_cons_of_mem r hq)

end Watch

namespace Grower

variable {σ : Type}

/-- What the next poll looks at. -/
def watch (g : Grower σ) : Watch where
  interval := g.config.pollInterval
  live := g.parameters
  captured := g.buffered
  elapsed := g.pollElapsed

/-! ### Work has no part in it -/

/-- `g'` is `g` after things that no poll looks at, and that announce nothing. -/
structure Works (g g' : Grower σ) : Prop where
  watch : g'.watch = g.watch
  outbox : ∃ es, g'.outbox.toList = g.outbox.toList ++ es ∧
    ∀ e ∈ es, e.isAnnouncement = false

theorem Works.refl (g : Grower σ) : g.Works g :=
  ⟨rfl, [], (List.append_nil _).symm, by simp⟩

theorem Works.trans {g₁ g₂ g₃ : Grower σ} (h₁ : g₁.Works g₂) (h₂ : g₂.Works g₃) :
    g₁.Works g₃ := by
  obtain ⟨hwatch, es, houtbox, hes⟩ := h₁
  obtain ⟨hwatch', fs, houtbox', hfs⟩ := h₂
  refine ⟨hwatch'.trans hwatch, es ++ fs, ?_, ?_⟩
  · rw [houtbox', houtbox, List.append_assoc]
  · intro e he
    rcases List.mem_append.mp he with he | he
    · exact hes e he
    · exact hfs e he

/-- Setting the run is such a thing. -/
theorem Works.of_run {g g' : Grower σ} {run : Option Run} (h : Works { g with run } g') :
    g.Works g' :=
  ⟨h.watch, h.outbox⟩

theorem works_report (g : Grower σ) {e : Event} (he : e.isAnnouncement = false) :
    g.Works (g.report e) :=
  ⟨rfl, [e], Array.toList_push, by simpa using he⟩

theorem works_settle (g : Grower σ) : g.Works g.settle := by
  rcases hrun : g.run with - | ⟨p, stage, segments, leaves⟩
  · simp only [settle, hrun]
    exact Works.refl g
  · rcases stage with e | r
    · simp only [settle, hrun]
      exact Works.refl g
    · rcases hr : r.isExhausted with - | -
      · simp only [settle, hrun, hr, Bool.false_eq_true, if_false]
        exact Works.refl g
      · simp only [settle, hrun, hr, if_true]
        have hend := works_report (e := .generationCompleted segments leaves)
          { g with run := none, lastSymbols := some r.symbols, completed := true } rfl
        exact ⟨hend.watch, hend.outbox⟩

variable [Scene σ]

theorem works_emit (g : Grower σ) (e : Emission) : g.Works (g.emit e) := by
  rw [emit_eq]
  refine ⟨rfl, (Scene.names? g.scene [e]).map Event.emitted, Array.toList_append, ?_⟩
  intro x hx
  obtain ⟨h, -, rfl⟩ := List.mem_map.mp hx
  cases h <;> rfl

theorem works_advance (g : Grower σ) : g.Works g.advance := by
  obtain h | ⟨run, h | ⟨pass, bytes, h⟩ | ⟨e, h⟩⟩ := g.advance_cases
  · rw [h]
    exact Works.refl g
  · rw [h]
    exact (works_settle _).of_run
  · rw [h]
    exact ((works_report _ rfl).trans (works_settle _)).of_run
  · rw [h]
    exact ((works_emit _ e).trans (works_settle _)).of_run

theorem works_advanceTimes (n : Nat) (g : Grower σ) : g.Works (advanceTimes n g) := by
  induction n generalizing g with
  | zero => exact Works.refl g
  | succ n ih => exact (works_advance g).trans (ih g.advance)

theorem works_sown (g : Grower σ) : g.planted.Works g.sown := (works_settle _).of_run

omit [Scene σ] in
theorem isAnnouncement_of_mem_stopReport {g : Grower σ} {e : Event} (he : e ∈ g.stopReport) :
    e.isAnnouncement = false := by
  rw [stopReport] at he
  split at he
  · exact absurd he List.not_mem_nil
  · rw [List.mem_singleton.mp he]
    rfl

/-- Stopping a run announces nothing either. -/
theorem works_stopped (g : Grower σ) : g.Works g.stopRun.discardEmissions := by
  refine ⟨?_, g.stopReport, stopped_outbox g, fun e he => isAnnouncement_of_mem_stopReport he⟩
  rw [discardEmissions_eq, stopRun_eq]
  rfl

theorem works_cancel (g : Grower σ) : g.Works g.cancel := by
  rw [cancel]
  split
  · exact works_stopped g
  · exact Works.refl g

/-! ### The watch of a grower -/

theorem watch_planted (g : Grower σ) : g.planted.watch = g.watch.capture := by
  simp only [planted, report, cleanup, discardEmissions_eq, stopRun_eq]
  rfl

/-- A new run captures the live parameters, and leaves the timer alone. -/
theorem watch_regenerate (g : Grower σ) : g.regenerate.watch = g.watch.capture := by
  obtain ⟨n, hn⟩ := exists_regenerate_eq g
  rw [hn, ((works_sown g).trans (works_advanceTimes n _)).watch, watch_planted]

/-- A poll that finds nothing sets the timer and does nothing else. -/
theorem poll_of_not_finds {g : Grower σ} {d : Duration} (h : g.pollFinds d = false) :
    g.poll d = { g with pollElapsed := g.watch.elapsedAfter d } := by
  rw [poll, Watch.elapsedAfter]
  by_cases hdue : g.config.pollInterval ≤ g.pollElapsed + d
  · have hedit : g.parameters.differsFrom g.buffered = false := by
      simpa [pollFinds, hdue] using h
    have hdue' : g.watch.interval ≤ g.watch.elapsed + d := hdue
    simp only [hdue, hdue', hedit, if_true, Bool.false_eq_true, if_false]
  · have hdue' : ¬ g.watch.interval ≤ g.watch.elapsed + d := hdue
    simp only [hdue, hdue', if_false]
    rfl

theorem poll_of_finds {g : Grower σ} {d : Duration} (h : g.pollFinds d = true) :
    g.poll d = ({ g with pollElapsed := g.watch.elapsedAfter d }.noticed true).regenerate := by
  obtain ⟨hdue, hedit⟩ := Bool.and_eq_true_iff.mp h
  have hafter : g.watch.elapsedAfter d = Duration.zero := if_pos (of_decide_eq_true hdue)
  rw [hafter]
  simp only [poll, of_decide_eq_true hdue, hedit, if_true]
  rfl

theorem watch_poll (g : Grower σ) (d : Duration) : (g.poll d).watch = g.watch.tick d := by
  rcases h : g.pollFinds d with - | -
  · have hfinds : g.watch.finds d = false := h
    rw [poll_of_not_finds h, Watch.tick_of_not_finds hfinds]
    rfl
  · have hfinds : g.watch.finds d = true := h
    rw [poll_of_finds h, watch_regenerate, Watch.tick_of_finds hfinds]
    rfl

/-- **The watch of a grower** decides alone what becomes of it. -/
theorem watch_respond (g : Grower σ) (r : Request) : (g.respond r).watch = g.watch.next r := by
  rcases r with (_ | _ | _ | p | d) | -
  case command.regenerate => exact watch_regenerate g
  case command.toggleGrowth => exact watch_regenerate _
  case command.toggleRandom => exact watch_regenerate _
  case command.update => rfl
  case command.tick => exact (works_advance (g.poll d)).watch.trans (watch_poll g d)
  case cancel => exact (works_cancel g).watch

theorem watch_respondAll (g : Grower σ) (rs : List Request) :
    (g.respondAll rs).watch = rs.foldl Watch.next g.watch := by
  induction rs generalizing g with
  | nil => rfl
  | cons r rs ih =>
    show ((g.respond r).respondAll rs).watch = rs.foldl Watch.next (g.watch.next r)
    rw [ih, watch_respond]

end Grower

end TurtleTree
