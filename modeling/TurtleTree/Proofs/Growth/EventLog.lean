/-
TurtleTree/Proofs/Growth/EventLog.lean

What a grower reports, as one log.

The log is made of blocks, one for every run.  A block opens with the start of
its run; the notice of a poll and the end of the run before, if it was stopped
by this one, come just ahead of it.  Then follow the passes, the emissions and
at most one ending (`Block.events`).

The counts of a run, the handles that the grower keeps and the reports are
written in different places and reset at different times.  They agree because
all three come from the same emissions (`logged_worked`), and a block that is
left behind keeps its own count until the next one opens (`exists_closed`).

Main result: the reports of a new grower with a scene are such a log, and
without a scene they are the same but for the emissions
(`eventLog_respondAll`).
-/
import TurtleTree.Proofs.Growth.Course
import TurtleTree.Proofs.Growth.Output

namespace TurtleTree

/-! ### Blocks -/

/-- How the reports of a run end. -/
inductive RunEnding where
  /-- They do not end yet. -/
  | inFlight
  /-- All symbols were interpreted. -/
  | completed
  /-- The host stopped the run. -/
  | cancelled
  /-- The next run stopped this one, and reports so when it begins. -/
  | replaced
deriving DecidableEq

/-- The reports of a run. -/
structure Block where
  /-- A poll has begun the run. -/
  byPoll : Bool
  parameters : Parameters
  /-- Number of passes reported. -/
  passes : Nat
  /-- Handles of the emissions reported. -/
  handles : List EmissionHandle
  ending : RunEnding

namespace Block

/-- The passes are among those asked for, and nothing is emitted before the last of them. -/
structure WellFormed (b : Block) : Prop where
  passes_le : b.passes ≤ b.parameters.iterations.toNat
  handles_of_lt : b.passes < b.parameters.iterations.toNat → b.handles = []
  passes_of_completed : b.ending = .completed → b.passes = b.parameters.iterations.toNat

/-- Number of segments reported. -/
def segments (b : Block) : Nat := b.handles.countP EmissionHandle.isSegment

/-- Number of leaves reported. -/
def leaves (b : Block) : Nat := b.handles.countP EmissionHandle.isLeaf

/-- The host has stopped the run. -/
def isCancelled (b : Block) : Bool := decide (b.ending = .cancelled)

/-- The report that the run was stopped. -/
def cancellation (b : Block) : Event := .runCancelled (b.segments + b.leaves)

/-- The passes of the run, by number and length, and then its emissions. -/
def body (b : Block) : List Event :=
  b.parameters.passReports b.passes ++ b.handles.map Event.emitted

/-- The end of the run, unless the next block reports it. -/
def closing (b : Block) : List Event :=
  match b.ending with
  | .inFlight => []
  | .completed => [.generationCompleted b.segments b.leaves]
  | .cancelled => [b.cancellation]
  | .replaced => []

/-- What the next block has to report for this one. -/
def owed (b : Block) : List Event :=
  if b.ending = .replaced then [b.cancellation] else []

/-- What stopping the run would report. -/
def stopReport (b : Block) : List Event :=
  if b.ending = .inFlight then [b.cancellation] else []

/-- The handles that are kept: those of the run, unless the host stopped it. -/
def kept (b : Block) : List EmissionHandle :=
  if b.ending = .cancelled then [] else b.handles

/-- The notice of a poll, the end of the block before and the start of the run. -/
def opening (previous : Option Block) (b : Block) : List Event :=
  (if b.byPoll then [.parametersChanged] else []) ++ (previous.map owed).getD []
    ++ [.regenerationStarted b.parameters.ruleSet b.parameters.iterations
      b.parameters.growthMode]

/-- All reports of a block that follows `previous`. -/
def events (previous : Option Block) (b : Block) : List Event :=
  b.opening previous ++ b.body ++ b.closing

/-! ### Logs -/

/-- The reports of blocks that follow `previous`. -/
def logAfter (previous : Option Block) : List Block → List Event
  | [] => []
  | b :: bs => b.events previous ++ logAfter (some b) bs

/-- The reports of blocks, one after the other. -/
def log (blocks : List Block) : List Event := logAfter none blocks

theorem logAfter_concat (previous : Option Block) (bs : List Block) (b : Block) :
    logAfter previous (bs ++ [b])
      = logAfter previous bs ++ b.events (bs.getLast?.or previous) := by
  induction bs generalizing previous with
  | nil => simp [logAfter]
  | cons c bs ih =>
    have hlast : (c :: bs).getLast?.or previous = bs.getLast?.or (some c) := by
      rw [List.getLast?_cons]
      rcases bs.getLast? with - | d <;> rfl
    rw [List.cons_append, logAfter, logAfter, ih, hlast, List.append_assoc]

/-- A block more. -/
theorem log_concat (bs : List Block) (b : Block) :
    log (bs ++ [b]) = log bs ++ b.events bs.getLast? := by
  rw [log, logAfter_concat, Option.or_none]
  rfl

/-- A run that a poll replaces is reported as stopped between the notice and the start. -/
example (p q : Parameters) :
    log [⟨false, p, 0, [], .replaced⟩, ⟨true, q, 0, [], .inFlight⟩]
      = [.regenerationStarted p.ruleSet p.iterations p.growthMode, .parametersChanged,
        .runCancelled 0, .regenerationStarted q.ruleSet q.iterations q.growthMode] := rfl

end Block

namespace Grower

variable {σ : Type}

/-! ### Growers and their blocks -/

/-- The grower has reported these blocks, and has come as far as the last of them says. -/
structure Logged (g : Grower σ) (blocks : List Block) : Prop where
  events : g.outbox.toList = Block.log blocks
  wellFormed : ∀ b ∈ blocks, b.WellFormed
  ended : ∀ b ∈ blocks.dropLast, b.ending ≠ .inFlight
  latest : ∀ b ∈ blocks.getLast?, b.parameters = g.buffered ∧ b.ending ≠ .replaced
  running : g.isRunning = true ↔ ∃ b ∈ blocks.getLast?, b.ending = .inFlight
  stopReport : g.stopReport = (blocks.getLast?.map Block.stopReport).getD []
  emitted : g.emitted.toList = (blocks.getLast?.map Block.kept).getD []

/-- A new run takes over the count of the run that it stops. -/
theorem Logged.exists_closed {g : Grower σ} {blocks : List Block} (h : g.Logged blocks) :
    ∃ closed : List Block, g.outbox.toList = Block.log closed ∧
      (∀ b ∈ closed, b.WellFormed ∧ b.ending ≠ .inFlight) ∧
      (closed.getLast?.map Block.owed).getD [] = g.stopReport ∧
      closed.length = blocks.length ∧
      closed.countP Block.isCancelled = blocks.countP Block.isCancelled := by
  rcases List.eq_nil_or_concat' blocks with rfl | ⟨bs, b, rfl⟩
  · exact ⟨[], h.events, by simp, h.stopReport.symm, rfl, rfl⟩
  · have hbs : ∀ c ∈ bs, c.WellFormed ∧ c.ending ≠ .inFlight := by
      intro c hc
      exact ⟨h.wellFormed c (List.mem_append_left _ hc), h.ended c (by simpa using hc)⟩
    have hb : b.WellFormed := h.wellFormed b (by simp)
    have hreport : g.stopReport = b.stopReport := by simpa using h.stopReport
    by_cases hflight : b.ending = .inFlight
    -- the block changes its ending, which leaves its reports as they are
    · refine ⟨bs ++ [{ b with ending := .replaced }], ?_, ?_, ?_, by simp, ?_⟩
      · rw [h.events, Block.log_concat, Block.log_concat]
        simp [Block.events, Block.opening, Block.body, Block.closing, hflight]
      · intro c hc
        rcases List.mem_append.mp hc with hc | hc
        · exact hbs c hc
        · rw [List.mem_singleton.mp hc]
          exact ⟨⟨hb.passes_le, hb.handles_of_lt, RunEnding.noConfusion⟩, RunEnding.noConfusion⟩
      · rw [hreport, Block.stopReport, if_pos hflight]
        simp [Block.owed, Block.cancellation, Block.segments, Block.leaves]
      · simp [Block.isCancelled, hflight]
    · refine ⟨bs ++ [b], h.events, ?_, ?_, rfl, rfl⟩
      · intro c hc
        rcases List.mem_append.mp hc with hc | hc
        · exact hbs c hc
        · rw [List.mem_singleton.mp hc]
          exact ⟨hb, hflight⟩
      · have hlatest := (h.latest b (by simp)).2
        rw [hreport, Block.stopReport, if_neg hflight]
        simp [Block.owed, hlatest]

variable [Scene σ]

/-- The block of a run after `w` units of work. -/
def block (g : Grower σ) (byPoll : Bool) (w : Nat) (ending : RunEnding) : Block where
  byPoll
  parameters := g.buffered
  passes := min w g.buffered.iterations.toNat
  handles := Scene.names? g.scene (g.context.made w)
  ending

/-- The grower has a scene, and has reported `m` blocks, `k` of which the host has stopped. -/
def LoggedRuns (m k : Nat) (g : Grower σ) : Prop :=
  (∃ s, g.scene = some s) ∧ ∃ blocks : List Block, g.Logged blocks ∧ blocks.length = m ∧
    blocks.countP Block.isCancelled = k

/-- A run is about to begin: the block of the run is open, it is the `m`-th, and all before
it have ended, `k` of them stopped by the host. -/
structure Opened (m k : Nat) (g : Grower σ) : Prop where
  scene : ∃ s, g.scene = some s
  emitted : g.emitted = #[]
  blocks : ∃ (closed : List Block) (byPoll : Bool),
    g.outbox.toList = Block.log (closed ++ [g.block byPoll 0 .inFlight]) ∧
      (∀ b ∈ closed, b.WellFormed ∧ b.ending ≠ .inFlight) ∧
      closed.length + 1 = m ∧ closed.countP Block.isCancelled = k

theorem wellFormed_block (g : Grower σ) (byPoll : Bool) {w : Nat} {ending : RunEnding}
    (h : ending = .completed → g.buffered.iterations.toNat ≤ w) :
    (g.block byPoll w ending).WellFormed where
  passes_le := Nat.min_le_right _ _
  handles_of_lt := by
    intro hlt
    have hw : w ≤ g.buffered.iterations.toNat := by
      have hmin : min w g.buffered.iterations.toNat < g.buffered.iterations.toNat := hlt
      omega
    have hmade : g.context.made w = [] := DrawingContext.made_of_le hw
    show Scene.names? g.scene (g.context.made w) = []
    rw [hmade, Scene.names?_nil]
  passes_of_completed := by
    intro hending
    exact Nat.min_eq_right (h hending)

/-- The reports of work are those of the block of the run. -/
theorem body_block (g : Grower σ) (byPoll : Bool) (w : Nat) (ending : RunEnding) :
    (g.block byPoll w ending).body = g.workReports w := rfl

theorem body_block_zero (g : Grower σ) (byPoll : Bool) :
    (g.block byPoll 0 .inFlight).body = [] := by
  have hmade : g.context.made 0 = [] := DrawingContext.made_of_le (Nat.zero_le _)
  rw [body_block, workReports, hmade]
  simp

/-- The counters of a run count the handles that the scene gave out. -/
theorem counts_block {g : Grower σ} {s : σ} (hs : g.scene = some s) (byPoll : Bool) (w : Nat)
    (ending : RunEnding) :
    (g.block byPoll w ending).segments = (Run.after g.context w).segments ∧
      (g.block byPoll w ending).leaves = (Run.after g.context w).leaves := by
  constructor
  · show (Scene.names? g.scene (g.context.made w)).countP EmissionHandle.isSegment = _
    rw [hs]
    exact Scene.countP_isSegment_addAll s _
  · show (Scene.names? g.scene (g.context.made w)).countP EmissionHandle.isLeaf = _
    rw [hs]
    exact Scene.countP_isLeaf_addAll s _

/-- So stopping a run reports the number of emissions of its block. -/
theorem cancellation_block {g : Grower σ} {s : σ} (hs : g.scene = some s) (byPoll : Bool)
    (w : Nat) (ending : RunEnding) :
    [(g.block byPoll w ending).cancellation] = (g.worked w).stopReport := by
  obtain ⟨hsegments, hleaves⟩ := counts_block hs byPoll w ending
  rw [Block.cancellation, hsegments, hleaves]
  rfl

/-- The reports of a run in flight. -/
theorem events_worked {g : Grower σ} {closed : List Block} {byPoll : Bool}
    (h : g.outbox.toList = Block.log (closed ++ [g.block byPoll 0 .inFlight])) (w : Nat) :
    (g.worked w).outbox.toList = Block.log (closed ++ [g.block byPoll w .inFlight]) := by
  rw [Block.log_concat, Block.events, body_block_zero] at h
  have hopening : (g.block byPoll w .inFlight).opening closed.getLast?
      = (g.block byPoll 0 .inFlight).opening closed.getLast? := rfl
  rw [Block.log_concat, Block.events, body_block, hopening]
  simp only [worked, Array.toList_append, h, Block.closing]
  simp [block]

/-- Another ending adds what it reports. -/
theorem log_block (g : Grower σ) (closed : List Block) (byPoll : Bool) (w : Nat)
    (ending : RunEnding) :
    Block.log (closed ++ [g.block byPoll w ending])
      = Block.log (closed ++ [g.block byPoll w .inFlight])
        ++ (g.block byPoll w ending).closing := by
  have hnone : (g.block byPoll w .inFlight).closing = [] := rfl
  simp only [Block.log_concat, Block.events, hnone, List.append_nil, List.append_assoc]
  rfl

/-- Blocks that have ended and one more that is well formed. -/
theorem wellFormed_concat {closed : List Block} {b : Block}
    (hclosed : ∀ c ∈ closed, c.WellFormed ∧ c.ending ≠ .inFlight) (hb : b.WellFormed) :
    (∀ c ∈ closed ++ [b], c.WellFormed) ∧
      ∀ c ∈ (closed ++ [b]).dropLast, c.ending ≠ .inFlight := by
  constructor
  · intro c hc
    rcases List.mem_append.mp hc with hc | hc
    · exact (hclosed c hc).1
    · rw [List.mem_singleton.mp hc]
      exact hb
  · rw [List.dropLast_concat]
    exact fun c hc => (hclosed c hc).2

/-! ### What one move does to the log -/

/-- Units of work lengthen the last block, and the last of them completes it. -/
theorem logged_worked {m k : Nat} {g : Grower σ} (h : Opened m k g) {w : Nat}
    (hw : w ≤ g.buffered.work) : LoggedRuns m k (g.worked w).settle := by
  obtain ⟨⟨s, hs⟩, hemitted, closed, byPoll, hlog, hclosed, hlength, hcount⟩ := h
  refine ⟨⟨_, (settle_scene_emitted _).1.trans (worked_scene hs w)⟩, ?_⟩
  have hevents := events_worked hlog w
  have hhandles : (g.worked w).emitted.toList = (g.block byPoll w .inFlight).handles := by
    simp [worked, hemitted, block]
  rcases Nat.lt_or_eq_of_le hw with hlt | rfl
  -- units are left: the block is open
  · have hblock : (g.block byPoll w .inFlight).WellFormed :=
      wellFormed_block g byPoll RunEnding.noConfusion
    obtain ⟨hformed, hended⟩ := wellFormed_concat hclosed hblock
    rw [settle_worked_of_lt hlt]
    refine ⟨closed ++ [g.block byPoll w .inFlight],
      ⟨hevents, hformed, hended, ?_, ?_, ?_, ?_⟩, by simpa using hlength,
      by simpa [block, Block.isCancelled] using hcount⟩
    · simp [block, worked]
    · simp [block, isRunning, worked]
    · rw [← cancellation_block hs byPoll w .inFlight]
      simp [block, Block.stopReport]
    · simpa [Block.kept, block] using hhandles
  -- the run has come to its end
  · have hblock : (g.block byPoll g.buffered.work .completed).WellFormed :=
      wellFormed_block g byPoll fun _ => Nat.le_add_right _ _
    obtain ⟨hformed, hended⟩ := wellFormed_concat hclosed hblock
    rw [settle_worked_all]
    refine ⟨closed ++ [g.block byPoll g.buffered.work .completed],
      ⟨?_, hformed, hended, ?_, ?_, ?_, ?_⟩, by simpa using hlength,
      by simpa [block, Block.isCancelled] using hcount⟩
    · obtain ⟨hsegments, hleaves⟩ := counts_block hs byPoll g.buffered.work .completed
      have hclosing : (g.block byPoll g.buffered.work .completed).closing
          = [.generationCompleted (Run.after g.context g.buffered.work).segments
              (Run.after g.context g.buffered.work).leaves] := by
        rw [← hsegments, ← hleaves]
        rfl
      rw [log_block, ← hevents, hclosing]
      exact Array.toList_push
    · simp [block, worked]
    · simp [block, isRunning]
    · simp [block, Grower.stopReport, Block.stopReport]
    · simpa [Block.kept, block] using hhandles

/-- Stopping a run for good closes its block with the number of its emissions. -/
theorem logged_stopped {m k : Nat} {g : Grower σ} (h : Opened m k g) (w : Nat) :
    LoggedRuns m (k + 1) (g.worked w).stopRun.discardEmissions := by
  obtain ⟨⟨s, hs⟩, hemitted, closed, byPoll, hlog, hclosed, hlength, hcount⟩ := h
  refine ⟨⟨_, stopped_worked_scene hs w⟩, ?_⟩
  have hevents := events_worked hlog w
  have hblock : (g.block byPoll w .cancelled).WellFormed :=
    wellFormed_block g byPoll RunEnding.noConfusion
  obtain ⟨hformed, hended⟩ := wellFormed_concat hclosed hblock
  refine ⟨closed ++ [g.block byPoll w .cancelled],
    ⟨?_, hformed, hended, ?_, ?_, ?_, ?_⟩, by simpa using hlength,
    by simpa [block, Block.isCancelled] using hcount⟩
  · have hclosing : (g.block byPoll w .cancelled).closing = (g.worked w).stopReport :=
      cancellation_block hs byPoll w .cancelled
    rw [log_block, ← hevents, hclosing]
    exact stopped_outbox _
  · have hbuffered : (g.worked w).stopRun.discardEmissions.buffered = g.buffered := by
      rw [discardEmissions_eq, stopRun_eq]
      rfl
    simp [block, hbuffered]
  · simp [block, isRunning]
  · simp [block, Grower.stopReport, Block.stopReport]
  · simp [Block.kept, block]

/-- A new run opens a block, and closes the one before if that run was in flight. -/
theorem opened_planted {m k : Nat} {g : Grower σ} (h : LoggedRuns m k g) (p : Parameters)
    (v : VarianceTable) (t : VarianceProvider) (d : Duration) (byPoll : Bool) :
    Opened (m + 1) k ((g.reset p v t d).noticed byPoll).planted := by
  obtain ⟨⟨s, hs⟩, blocks, hblocks, hlength, hcount⟩ := h
  obtain ⟨closed, hlog, hclosed, howed, hlength', hcount'⟩ := hblocks.exists_closed
  have hscene := planted_reset_scene g p v t d byPoll
  rw [hs, Option.map_some] at hscene
  refine ⟨⟨_, hscene⟩, planted_emitted _, closed, byPoll, ?_, hclosed,
    congrArg (· + 1) (hlength'.trans hlength), hcount'.trans hcount⟩
  have hlive : (g.reset p v t d).parameters = p := rfl
  have hnotice : (g.reset p v t d).outbox = g.outbox := rfl
  have hstop : (g.reset p v t d).stopReport = g.stopReport := rfl
  rw [planted_outbox, noticed_outbox, noticed_stopReport, hnotice, hstop, hlog,
    Block.log_concat, Block.events, body_block_zero, Block.opening, howed, startReport]
  simp [block, hlive, Block.closing]

/-! ### Every log -/

theorem course_logged {m k : Nat} {g : Grower σ}
    (h : Course (LoggedRuns m k) (Opened m k) g) : LoggedRuns m k g := by
  cases h with
  | rest _ hr => exact hr
  | run hb hw => exact logged_worked hb hw

omit [Scene σ] in
/-- The live parameters have no part in the log. -/
theorem Logged.tuned {g : Grower σ} {blocks : List Block} (h : g.Logged blocks)
    (p : Parameters) (d : Duration) : (g.tuned p d).Logged blocks :=
  ⟨h.events, h.wellFormed, h.ended, h.latest, h.running, h.stopReport, h.emitted⟩

/-- A block for every run that was begun, and one stopped by the host for every time it did
so. -/
theorem loggedRuns_respondAll {m k : Nat} {g : Grower σ} (hrun : g.run = none)
    (h : LoggedRuns m k g) (rs : List Request) :
    LoggedRuns (m + g.tally regenerates rs) (k + g.tally stops rs) (g.respondAll rs) := by
  refine course_logged (Course.respondAll (R := LoggedRuns) (B := Opened) ?_ ?_ ?_ ?_
    (.rest hrun h) rs)
  · rintro m k g p d ⟨hs, blocks, hblocks, hcounts⟩
    exact ⟨hs, blocks, hblocks.tuned p d, hcounts⟩
  · rintro m k g p d ⟨hs, hemitted, hblocks⟩
    exact ⟨hs, hemitted, hblocks⟩
  · intro m k g p v t d byPoll hg
    exact opened_planted (course_logged hg) p v t d byPoll
  · intro m k g w hg _
    exact logged_stopped hg w

end Grower

/-! ### Without a scene -/

/-- The output of a grower that has no scene: no handles, and no reports of emissions. -/
def Output.bare {σ : Type} (o : Output σ) : Output σ where
  scene := none
  emitted := #[]
  outbox := (o.outbox.toList.filter fun e => !e.isEmission).toArray

namespace Grower

variable {σ : Type} [Scene σ]

theorem kept_bare : Kept fun (o : Output σ) o' => o' = o.bare where
  report := by
    rintro o - e he rfl
    simp [Output.report, Output.bare, he]
  discard := by
    rintro o - rfl
    rfl
  emit := by
    rintro o - e rfl
    have hnone : ((Scene.names? o.scene [e]).map Event.emitted).filter
        (fun e => !e.isEmission) = [] := by
      refine List.filter_eq_nil_iff.mpr ?_
      intro x hx
      obtain ⟨k, -, rfl⟩ := List.mem_map.mp hx
      cases k <;> exact Bool.false_ne_true
    have hsame : (o.emit e).outbox.toList.filter (fun e => !e.isEmission)
        = o.outbox.toList.filter fun e => !e.isEmission := by
      simp only [Output.emit, Array.toList_append, List.filter_append, hnone, List.append_nil]
    show o.bare.emit e
      = ⟨none, #[], ((o.emit e).outbox.toList.filter fun e => !e.isEmission).toArray⟩
    rw [hsame]
    simp [Output.emit, Output.bare, Scene.with?, Scene.names?]

/-- Without a scene a grower does the same, and reports the same but for the emissions. -/
theorem bare_respondAll (g : Grower σ) (rs : List Request) :
    (g.put g.output.bare).respondAll rs
      = (g.respondAll rs).put (g.respondAll rs).output.bare := by
  have halike : Alike _ (g.respondAll rs) ((g.put g.output.bare).respondAll rs) :=
    Alike.respondAll kept_bare (.intro g.output.bare rfl) rs
  rw [halike.eq_put, halike.output]

/-- **Every report has its place.**  Whatever a host asks of a new grower with a scene, its
reports are a log of blocks: one for each run that was begun, and as many stopped by the
host as it has stopped.  All blocks but the last have ended, the last is that of the latest
parameters and has no end exactly while a run is in flight, and the handles that the grower
keeps are those of the last block, unless the host stopped it.  Without a scene everything
else is the same, and only the reports of emissions are missing. -/
theorem eventLog_respondAll (config : GrowthConfig) (p : Parameters) (s : σ)
    (rs : List Request) :
    let start := begin config p (some s)
    let g := start.respondAll rs
    let bare := (begin config p (none : Option σ)).respondAll rs
    (∃ blocks : List Block, g.outbox.toList = Block.log blocks ∧
      (∀ b ∈ blocks, b.WellFormed) ∧
      (∀ b ∈ blocks.dropLast, b.ending ≠ .inFlight) ∧
      (∀ b ∈ blocks.getLast?, b.parameters = g.buffered ∧ b.ending ≠ .replaced) ∧
      (g.isRunning = true ↔ ∃ b ∈ blocks.getLast?, b.ending = .inFlight) ∧
      g.emitted.toList = (blocks.getLast?.map Block.kept).getD [] ∧
      blocks.length = start.tally regenerates rs ∧
      blocks.countP Block.isCancelled = start.tally stops rs) ∧
    bare = g.put g.output.bare ∧
    bare.outbox.toList = g.outbox.toList.filter fun e => !e.isEmission := by
  intro start g bare
  have hstart : LoggedRuns 0 0 start := by
    refine ⟨⟨s, rfl⟩, [], ⟨rfl, ?_, ?_, ?_, ?_, rfl, rfl⟩, rfl, rfl⟩
    · simp
    · simp
    · simp
    · simp [start, isRunning, begin]
  obtain ⟨-, blocks, hblocks, hlength, hcount⟩ := loggedRuns_respondAll rfl hstart rs
  rw [Nat.zero_add] at hlength hcount
  have hbare : bare = g.put g.output.bare := bare_respondAll start rs
  refine ⟨⟨blocks, hblocks.events, hblocks.wellFormed, hblocks.ended, hblocks.latest,
    hblocks.running, hblocks.emitted, hlength, hcount⟩, hbare, ?_⟩
  rw [hbare]
  rfl

end Grower

end TurtleTree
