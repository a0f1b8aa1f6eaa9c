/-
TurtleTree/Proofs/Growth/Polling.lean

When a grower finds out that its parameters were edited.

The timer of a grower and the parameters it compares with are told here from what
a host knows, the requests it made and the reports it got: the ticks since the
last poll (`waited`), and the parameters of the last run that was begun
(`captured`).  All ways of asking are covered, and none of them resets the timer
but a poll.

Main result: a tick finds an edit exactly when those ticks and this one reach the
poll interval and the live parameters differ from the captured ones, and it then
does what a regeneration does.  So an edit is found at the first tick at which
it can be, and nothing is found without one (`changeDetection_respondAll`).
-/
import TurtleTree.Proofs.Growth.Pacing
import TurtleTree.Proofs.Growth.Watch

namespace TurtleTree

open Duration (total waited)

/-- The time that the command lets pass. -/
def Command.elapsed? : Command → Option Duration
  | .tick d => some d
  | _ => none

/-- The times of the ticks among commands. -/
def Command.ticks (cs : List Command) : List Duration := cs.filterMap Command.elapsed?

open Command (ticks)

namespace Grower

variable {σ : Type}

/-- The announcements among the reports. -/
def announced (g : Grower σ) : List Event := g.outbox.toList.filter Event.isAnnouncement

theorem Works.announced {g g' : Grower σ} (h : g.Works g') : g'.announced = g.announced := by
  obtain ⟨-, es, houtbox, hes⟩ := h
  have hnone : es.filter Event.isAnnouncement = [] := by
    rw [List.filter_eq_nil_iff]
    intro e he
    rw [hes e he]
    exact Bool.false_ne_true
  rw [Grower.announced, houtbox, List.filter_append, hnone, List.append_nil]
  rfl

/-- Reports that wait for the host have no part in what begins a run. -/
theorem regenerates_takeEvents (g : Grower σ) (r : Request) :
    g.takeEvents.2.regenerates r = g.regenerates r := by
  rcases r with (_ | _ | _ | p | d) | - <;> rfl

variable [Scene σ]

/-- What a request reports. -/
def reports (g : Grower σ) (r : Request) : List Event :=
  (g.takeEvents.2.respond r).outbox.toList

/-- The request reports that a run began. -/
def beginsRun (g : Grower σ) (r : Request) : Bool := (g.reports r).any Event.isStart

/-- The parameters of the last run that was begun along requests, or `p` before the first. -/
def captured (g : Grower σ) (p : Parameters) : List Request → Parameters
  | [] => p
  | r :: rs =>
    (g.respond r).captured (if g.beginsRun r then (g.respond r).parameters else p) rs

/-! ### What is announced -/

/-- A new run announces its start, once. -/
theorem announced_planted (g : Grower σ) : g.planted.announced = g.announced ++ [g.startReport] := by
  have hstop : g.stopReport.filter Event.isAnnouncement = [] := by
    rw [List.filter_eq_nil_iff]
    intro e he
    rw [isAnnouncement_of_mem_stopReport he]
    exact Bool.false_ne_true
  rw [announced, planted_outbox, List.filter_append, List.filter_append, hstop, List.append_nil]
  rfl

theorem announced_advanceTimes_sown (n : Nat) (g : Grower σ) :
    (advanceTimes n g.sown).announced = g.announced ++ [g.startReport] := by
  rw [((works_sown g).trans (works_advanceTimes n _)).announced, announced_planted]

/-- A request that begins no run announces nothing. -/
theorem announced_reports_of_not_regenerates {g : Grower σ} {r : Request}
    (h : g.regenerates r = false) : (g.reports r).filter Event.isAnnouncement = [] := by
  rw [← regenerates_takeEvents] at h
  show (g.takeEvents.2.respond r).announced = g.takeEvents.2.announced
  obtain ⟨-, -, p, d, n, hr⟩ | ⟨hreg, -⟩ | ⟨-, -, hr⟩ := g.takeEvents.2.respond_cases r
  · rw [hr]
    exact (works_advanceTimes n _).announced
  · exact Bool.noConfusion (hreg.symm.trans h)
  · rw [hr]
    exact (works_stopped _).announced

/-- A request that begins a run announces it. -/
theorem exists_start_of_regenerates {g : Grower σ} {r : Request} (h : g.regenerates r = true) :
    ∃ e ∈ g.reports r, e.isStart = true := by
  rw [← regenerates_takeEvents] at h
  obtain ⟨hreg, -⟩ | ⟨-, -, p, v, q, d, byPoll, n, hr⟩ | ⟨hreg, -⟩ :=
    g.takeEvents.2.respond_cases r
  · exact Bool.noConfusion (hreg.symm.trans h)
  · have hannounced := announced_advanceTimes_sown n ((g.takeEvents.2.reset p v q d).noticed byPoll)
    have hmem : ((g.takeEvents.2.reset p v q d).noticed byPoll).startReport
        ∈ (g.takeEvents.2.respond r).announced := by
      rw [hr, hannounced]
      exact List.mem_append_right _ List.mem_cons_self
    exact ⟨_, (List.mem_filter.mp hmem).1, rfl⟩
  · exact Bool.noConfusion (hreg.symm.trans h)

/-- So the reports tell which requests begin a run. -/
theorem beginsRun_eq (g : Grower σ) (r : Request) : g.beginsRun r = g.regenerates r := by
  rcases h : g.regenerates r with - | -
  · rw [beginsRun, List.any_eq_false]
    intro e he hstart
    have hnone := List.filter_eq_nil_iff.mp (announced_reports_of_not_regenerates h) e he
    cases e <;> first | exact Bool.false_ne_true hstart | exact hnone rfl
  · rw [beginsRun, List.any_eq_true]
    exact exists_start_of_regenerates h

/-! ### The captured parameters -/

/-- The buffered parameters are those of the last run that was begun. -/
theorem buffered_respond (g : Grower σ) (r : Request) :
    (g.respond r).buffered
      = if g.beginsRun r then (g.respond r).parameters else g.buffered := by
  rw [beginsRun_eq]
  show (g.respond r).watch.captured
    = if g.regenerates r then (g.respond r).watch.live else g.watch.captured
  rw [watch_respond]
  rcases r with (_ | _ | _ | p | d) | -
  case command.tick =>
    show (g.watch.tick d).captured = if g.watch.finds d then (g.watch.tick d).live else _
    rcases h : g.watch.finds d with - | -
    · rw [Watch.tick_of_not_finds h]
      rfl
    · rw [Watch.tick_of_finds h]
      rfl
  all_goals rfl

theorem buffered_respondAll (g : Grower σ) (rs : List Request) :
    (g.respondAll rs).buffered = g.captured g.buffered rs := by
  induction rs generalizing g with
  | nil => rfl
  | cons r rs ih =>
    show ((g.respond r).respondAll rs).buffered = _
    rw [ih, buffered_respond]
    rfl

/-- Commands that begin no run leave them as they are. -/
theorem buffered_applyAll {g : Grower σ} {cs : List Command} (h : g.undisturbed cs = true) :
    (g.applyAll cs).buffered = g.buffered := by
  induction cs generalizing g with
  | nil => rfl
  | cons c cs ih =>
    rw [undisturbed, Bool.and_eq_true, Bool.not_eq_true'] at h
    obtain ⟨hc, hcs⟩ := h
    have hsame : (g.apply c).buffered = g.buffered := by
      have := buffered_respond g (.command c)
      rwa [beginsRun_eq, hc] at this
    exact (ih hcs).trans hsame

/-! ### A poll that finds an edit -/

theorem planted_timed (g : Grower σ) (d : Duration) :
    { g with pollElapsed := d }.planted = { g.planted with pollElapsed := d } := by
  simp only [planted, report, cleanup, discardEmissions_eq, stopRun_eq]
  rfl

theorem settle_worked_timed (g : Grower σ) (w : Nat) (d : Duration) :
    ({ g with pollElapsed := d }.worked w).settle
      = { (g.worked w).settle with pollElapsed := d } := by
  have hlive : (g.worked w).settle.parameters = g.parameters :=
    congrArg Watch.live (works_settle (g.worked w)).watch
  calc ((g.tuned g.parameters d).worked w).settle
      = (g.worked w).settle.tuned g.parameters d := (tuned_settle_worked g w _ d).symm
    _ = (g.worked w).settle.tuned (g.worked w).settle.parameters d := by rw [hlive]

/-- A new run does not look at the timer. -/
theorem regenerate_timed (g : Grower σ) (d : Duration) :
    { g with pollElapsed := d }.regenerate = { g.regenerate with pollElapsed := d } := by
  rcases hmode : g.parameters.growthMode with - | -
  · rw [regenerate_of_instant (g := { g with pollElapsed := d }) hmode,
      regenerate_of_instant hmode, planted_timed, settle_worked_timed]
  · rw [regenerate_of_stepwise (g := { g with pollElapsed := d }) hmode,
      regenerate_of_stepwise hmode, planted_timed, settle_worked_timed]

theorem run_regenerate_of_instant {g : Grower σ} (h : g.parameters.growthMode = .instant) :
    g.regenerate.run = none := by
  rw [regenerate_of_instant h, ← planted_buffered g, settle_worked_all]

/-- A poll that finds an edit does what a regeneration does, and starts to count anew.  A
stepwise run gets its first unit of work from the same tick. -/
theorem tick_of_finds {g : Grower σ} {d : Duration} (h : g.pollFinds d = true) :
    g.tick d =
      let again := { (g.report .parametersChanged).regenerate with pollElapsed := Duration.zero }
      match g.parameters.growthMode with
      | .instant => again
      | .stepwise => again.advance := by
  have hagain : g.tick d
      = { (g.report .parametersChanged).regenerate with pollElapsed := Duration.zero }.advance := by
    rw [tick_of_pollFinds h, ← regenerate_timed]
    rfl
  rw [hagain]
  rcases hmode : g.parameters.growthMode with - | -
  -- all work of an instant run is done, so nothing is left for the tick
  · exact advance_of_idle (run_regenerate_of_instant hmode)
  · rfl

theorem announced_tick {g : Grower σ} {d : Duration} (h : g.pollFinds d = true) :
    (g.reports (.command (.tick d))).filter Event.isAnnouncement
      = [.parametersChanged, g.startReport] := by
  have hfinds : g.takeEvents.2.pollFinds d = true := h
  show (g.takeEvents.2.tick d).announced = _
  rw [tick_of_pollFinds hfinds]
  obtain ⟨n, hn⟩ := exists_regenerate_eq
    ((g.takeEvents.2.tuned g.takeEvents.2.parameters Duration.zero).noticed true)
  rw [hn, ← advanceTimes_succ, announced_advanceTimes_sown]
  rfl

/-- A tick reports an edit exactly when its poll finds one. -/
theorem mem_reports_tick (g : Grower σ) (d : Duration) :
    .parametersChanged ∈ g.reports (.command (.tick d)) ↔ g.pollFinds d = true := by
  have hmem : .parametersChanged ∈ g.reports (.command (.tick d)) ↔ .parametersChanged
      ∈ (g.reports (.command (.tick d))).filter Event.isAnnouncement := by
    rw [List.mem_filter]
    exact ⟨fun h => ⟨h, rfl⟩, fun h => h.1⟩
  rw [hmem]
  rcases h : g.pollFinds d with - | -
  · have hnone := announced_reports_of_not_regenerates (r := .command (.tick d)) h
    rw [hnone]
    exact ⟨fun h => absurd h List.not_mem_nil, Bool.noConfusion⟩
  · rw [announced_tick h]
    exact ⟨fun _ => rfl, fun _ => List.mem_cons_self⟩

/-! ### Ticks before a poll -/

/-- A tick that does not reach the interval finds nothing, and the timer goes on. -/
theorem tick_of_not_due {g : Grower σ} {d : Duration}
    (h : ¬ g.config.pollInterval ≤ g.pollElapsed + d) :
    g.pollFinds d = false ∧ (g.tick d).pollElapsed = g.pollElapsed + d := by
  refine ⟨?_, ?_⟩
  · rw [pollFinds, decide_eq_false h, Bool.false_and]
  · have htimer : (g.tick d).pollElapsed = (g.watch.tick d).elapsed :=
      congrArg Watch.elapsed (watch_respond g (.command (.tick d)))
    rw [htimer, Watch.elapsed_tick]
    exact if_neg h

theorem interval_apply (g : Grower σ) (c : Command) :
    (g.apply c).config.pollInterval = g.config.pollInterval :=
  (congrArg Watch.interval (watch_respond g (.command c))).trans (Watch.interval_next _ _)

theorem interval_applyAll (g : Grower σ) (cs : List Command) :
    (g.applyAll cs).config.pollInterval = g.config.pollInterval := by
  induction cs generalizing g with
  | nil => rfl
  | cons c cs ih => exact (ih (g.apply c)).trans (interval_apply g c)

theorem ticks_cons (c : Command) (cs : List Command) :
    ticks (c :: cs) = c.elapsed?.toList ++ ticks cs := by
  rw [ticks, List.filterMap_cons]
  rcases c.elapsed? with - | d <;> rfl

/-- While no tick makes a poll, edits and ticks begin no run, and the timer counts the ticks. -/
theorem undisturbed_of_not_due {g : Grower σ} {ds : List Duration}
    (hds : g.pollElapsed = total ds) {cs : List Command}
    (hcs : ∀ c ∈ cs, c.isTick = true ∨ c.isUpdate = true)
    (hdue : ticks cs ≠ [] → ¬ g.config.pollInterval ≤ total (ds ++ ticks cs)) :
    g.undisturbed cs = true ∧ (g.applyAll cs).pollElapsed = total (ds ++ ticks cs) := by
  induction cs generalizing g ds with
  | nil =>
    refine ⟨rfl, ?_⟩
    show g.pollElapsed = total (ds ++ [])
    rw [hds, List.append_nil]
  | cons c cs ih =>
    obtain ⟨hc, hrest⟩ := List.forall_mem_cons.mp hcs
    rw [ticks_cons] at hdue ⊢
    rw [← interval_apply g c] at hdue
    rcases c with _ | _ | _ | p | d
    case update => exact ih (g := g.apply (.update p)) hds hrest hdue
    case tick =>
      -- all ticks together do not reach the interval, so this one does not either
      have hlate : ¬ g.config.pollInterval ≤ total (ds ++ [d]) := by
        intro hle
        rw [← interval_apply g (.tick d)] at hle
        refine hdue (List.cons_ne_nil d _) (Duration.le_trans hle ?_)
        rw [← List.append_assoc]
        exact Duration.total_le_append _ _
      rw [Duration.total_concat, ← hds] at hlate
      obtain ⟨hfinds, htimer⟩ := tick_of_not_due hlate
      rw [hds, ← Duration.total_concat] at htimer
      obtain ⟨hquiet, hend⟩ := ih (g := g.apply (.tick d)) htimer hrest fun _ => by
        rw [List.append_assoc]
        exact hdue (List.cons_ne_nil d _)
      refine ⟨?_, ?_⟩
      · rw [undisturbed, Bool.and_eq_true, Bool.not_eq_true']
        exact ⟨hfinds, hquiet⟩
      · rw [List.append_assoc] at hend
        exact hend
    all_goals rcases hc with h | h <;> exact absurd h Bool.false_ne_true

/-! ### Every history -/

/-- **No edit is lost, and nothing else is found.**  Whatever a host has asked of a new grower:

* a tick reports an edit exactly when it and the ticks since the last poll reach the interval
  and the live parameters differ from those of the last run that was begun;
* it then announces one run, and leaves what a regeneration after that report leaves, with the
  timer at zero, and with a unit of work done if the run is stepwise;
* any other tick announces nothing, and its poll changes nothing but the timer;
* commands that begin no run leave the captured parameters as they are, so small edits add up;
* edits and ticks begin no run before a tick reaches the interval, and the first one that does
  reports an edit, if the live parameters then differ;
* and once the live parameters are captured, nothing is reported until they are edited. -/
theorem changeDetection_respondAll (config : GrowthConfig) (p : Parameters) (scene : Option σ)
    (rs : List Request) :
    let start := begin config p scene
    let g := start.respondAll rs
    let captured := start.captured p rs
    let waited := waited config.pollInterval rs
    (g.buffered = captured ∧ g.pollElapsed = total waited) ∧
    (∀ d : Duration,
      let due := config.pollInterval ≤ total (waited ++ [d])
      let edited := g.parameters.differsFrom captured = true
      let tick := Request.command (.tick d)
      let again := { (g.report .parametersChanged).regenerate with pollElapsed := Duration.zero }
      (.parametersChanged ∈ g.reports tick ↔ due ∧ edited) ∧
      (due ∧ edited →
        (g.reports tick).filter Event.isAnnouncement = [.parametersChanged, g.startReport] ∧
        g.tick d = match g.parameters.growthMode with
          | .instant => again
          | .stepwise => again.advance) ∧
      (¬ (due ∧ edited) →
        (g.reports tick).filter Event.isAnnouncement = [] ∧
        g.poll d = { g with
          pollElapsed := if due then Duration.zero else total (waited ++ [d]) })) ∧
    (∀ cs : List Command, g.undisturbed cs = true → (g.applyAll cs).buffered = captured) ∧
    (∀ (cs : List Command) (d : Duration), (∀ c ∈ cs, c.isTick = true ∨ c.isUpdate = true) →
      (ticks cs ≠ [] → ¬ config.pollInterval ≤ total (waited ++ ticks cs)) →
      config.pollInterval ≤ total (waited ++ ticks cs ++ [d]) →
      g.undisturbed cs = true ∧
        ((g.applyAll cs).parameters.differsFrom captured = true →
          .parametersChanged ∈ (g.applyAll cs).reports (.command (.tick d)))) ∧
    (g.parameters = captured → ∀ qs : List Request, (∀ q ∈ qs, q.isUpdate = false) →
      ∀ d : Duration, .parametersChanged ∉ (g.respondAll qs).reports (.command (.tick d))) := by
  intro start g captured waited
  have hwatch : g.watch = rs.foldl Watch.next start.watch := watch_respondAll start rs
  have hinterval : g.config.pollInterval = config.pollInterval :=
    (congrArg Watch.interval hwatch).trans (Watch.interval_foldl _ _)
  have helapsed : g.pollElapsed = total waited :=
    (congrArg Watch.elapsed hwatch).trans (Watch.elapsed_foldl rfl rs)
  have hbuffered : g.buffered = captured := buffered_respondAll start rs
  have hsum : ∀ d, g.pollElapsed + d = total (waited ++ [d]) := by
    intro d
    rw [helapsed, Duration.total_concat]
  have hfinds : ∀ d, g.pollFinds d = true ↔
      config.pollInterval ≤ total (waited ++ [d]) ∧ g.parameters.differsFrom captured = true := by
    intro d
    rw [pollFinds, Bool.and_eq_true, decide_eq_true_eq, hsum, hinterval, hbuffered]
  refine ⟨⟨hbuffered, helapsed⟩, ?_, ?_, ?_, ?_⟩
  · intro d due edited tick again
    refine ⟨(mem_reports_tick g d).trans (hfinds d), ?_, ?_⟩
    · intro h
      have hfound := (hfinds d).mpr h
      exact ⟨announced_tick hfound, tick_of_finds hfound⟩
    · intro h
      have hnone : g.pollFinds d = false := by
        rw [← Bool.not_eq_true, hfinds]
        exact h
      refine ⟨announced_reports_of_not_regenerates (r := tick) hnone, ?_⟩
      rw [poll_of_not_finds hnone, Watch.elapsedAfter]
      show { g with pollElapsed := if g.config.pollInterval ≤ g.pollElapsed + d then _
        else g.pollElapsed + d } = _
      rw [hsum, hinterval]
  · intro cs hcs
    exact (buffered_applyAll hcs).trans hbuffered
  · intro cs d hcs hearly hdue
    rw [← hinterval] at hearly
    obtain ⟨hquiet, htimer⟩ := undisturbed_of_not_due helapsed hcs hearly
    refine ⟨hquiet, ?_⟩
    intro hedit
    have hinterval' : (g.applyAll cs).config.pollInterval = config.pollInterval :=
      (interval_applyAll g cs).trans hinterval
    rw [mem_reports_tick, pollFinds, Bool.and_eq_true, decide_eq_true_eq, htimer,
      ← Duration.total_concat, hinterval', buffered_applyAll hquiet, hbuffered]
    exact ⟨hdue, hedit⟩
  · intro hsame qs hqs d
    rw [mem_reports_tick, Bool.not_eq_true]
    have hlive : g.watch.live = g.watch.captured := hsame.trans hbuffered.symm
    have hend := Watch.captured_foldl hlive hqs
    rw [← watch_respondAll] at hend
    exact Watch.finds_of_captured hend d

/-- Two edits below the tolerance.  A poll passes the first by, and the next one, two ticks
later, finds both. -/
theorem changeDetection_drifting :
    let config := GrowthConfig.ofSeed 7
    let p := { Parameters.standard with iterations := 1 }
    let drift := fun angle => Command.update { p with angle }
    let tick := Command.tick (Duration.ofMilliseconds 100)
    let start := begin config p (none : Option SceneStore)
    let rs := [.regenerate, drift 25.0078125, tick, tick].map Request.command
    let cs := [drift 25.015625, tick]
    (start.respondAll rs).buffered = p ∧ (start.respondAll rs).undisturbed cs = true ∧
      .parametersChanged ∈ ((start.respondAll rs).applyAll cs).reports (.command tick) := by
  intro config p drift tick start rs cs
  have hcaptured : start.captured p rs = p := by decide +kernel
  have hkinds : ∀ c ∈ cs, c.isTick = true ∨ c.isUpdate = true := by decide +kernel
  have hwaited : waited config.pollInterval rs = [] := by decide +kernel
  have hearly : ticks cs ≠ [] → ¬ config.pollInterval ≤ total ([] ++ ticks cs) := by
    decide +kernel
  have hdue : config.pollInterval ≤ total ([] ++ ticks cs ++ [Duration.ofMilliseconds 100]) := by
    decide +kernel
  have hedit : ((start.respondAll rs).applyAll cs).parameters.differsFrom p = true := by
    decide +kernel
  obtain ⟨⟨hbuffered, -⟩, -, -, hfirst, -⟩ :=
    changeDetection_respondAll config p (none : Option SceneStore) rs
  rw [hcaptured] at hbuffered hfirst
  rw [hwaited] at hfirst
  obtain ⟨hquiet, hfound⟩ := hfirst cs (Duration.ofMilliseconds 100) hkinds hearly hdue
  exact ⟨hbuffered, hquiet, hfound hedit⟩

end Grower

end TurtleTree
