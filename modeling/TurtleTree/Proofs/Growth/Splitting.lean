/-
TurtleTree/Proofs/Growth/Splitting.lean

The same time in longer or in shorter ticks.

A poll starts the timer anew from zero, also in a tick that ends after the time at which
the poll was due, and the time in excess is not counted.  So long ticks find what their
nanoseconds find as long as no further poll is due in an interval that was started too
late (`Command.punctual`).  The proof is an induction on the commands, in which each tick
is compared to its nanoseconds: those up to the poll do what the tick does
(`Watch.after_waits_min`), and those after it do nothing (`Watch.findings_waits_append`).

Main results: two punctual ways through one schedule find equally many edits and capture
the same parameters (`Grower.notices_resplit`), and two others need not
(`Grower.notices_late`).
-/
import TurtleTree.Proofs.Growth.Begun
import TurtleTree.Proofs.Growth.Schedule

namespace TurtleTree

open Command (span schedule punctual finest waits edits)

/-! ### What the watch finds -/

namespace Watch

variable {w : Watch} {d : Duration} {cs : List Command}

/-- The command is a tick, and its poll finds edited parameters. -/
def discovers (w : Watch) (c : Command) : Bool := c.isTick && w.begins (.command c)

/-- Number of the polls along commands that find edited parameters. -/
def findings (w : Watch) : List Command → Nat
  | [] => 0
  | c :: cs => (w.discovers c).toNat + (w.next (.command c)).findings cs

theorem findings_append (w : Watch) (cs ds : List Command) :
    w.findings (cs ++ ds) = w.findings cs + (w.after cs).findings ds := by
  induction cs generalizing w with
  | nil => exact (Nat.zero_add _).symm
  | cons c cs ih =>
    rw [List.cons_append, findings, findings, ih, Nat.add_assoc]
    rfl

/-- Sums stop at the longest duration, but no interval is longer. -/
theorem due_iff : w.interval ≤ w.elapsed + d ↔
    w.interval.nanoseconds ≤ w.elapsed.nanoseconds + d.nanoseconds := by
  show w.interval.nanoseconds
    ≤ (Duration.saturating (w.elapsed.nanoseconds + d.nanoseconds)).nanoseconds ↔ _
  have := w.interval.bounded
  rw [Duration.nanoseconds_saturating]
  omega

/-- The timer after a tick, in nanoseconds. -/
theorem nanoseconds_tick (w : Watch) (d : Duration) :
    (w.tick d).elapsed.nanoseconds =
      if w.interval.nanoseconds ≤ w.elapsed.nanoseconds + d.nanoseconds then 0
      else w.elapsed.nanoseconds + d.nanoseconds := by
  have := w.interval.bounded
  rw [elapsed_tick, elapsedAfter]
  simp only [due_iff]
  split
  · rfl
  · show (Duration.saturating (w.elapsed.nanoseconds + d.nanoseconds)).nanoseconds = _
    rw [Duration.nanoseconds_saturating]
    omega

/-- A tick before a poll is due moves the timer. -/
theorem tick_of_early
    (h : w.elapsed.nanoseconds + d.nanoseconds < w.interval.nanoseconds) :
    w.finds d = false ∧ w.tick d = { w with
      elapsed := .saturating (w.elapsed.nanoseconds + d.nanoseconds) } ∧
    (w.tick d).elapsed.nanoseconds = w.elapsed.nanoseconds + d.nanoseconds := by
  have hdue : ¬ w.interval ≤ w.elapsed + d := by
    rw [due_iff]
    omega
  have hfinds : w.finds d = false := by
    rw [finds, decide_eq_false hdue, Bool.false_and]
  refine ⟨hfinds, ?_, ?_⟩
  · rw [tick_of_not_finds hfinds, elapsedAfter, if_neg hdue]
    rfl
  · rw [nanoseconds_tick, if_neg (by omega)]

/-- A poll does the same however late it is. -/
theorem tick_of_due (h : w.interval.nanoseconds ≤ w.elapsed.nanoseconds + d.nanoseconds) :
    w.finds d = w.live.differsFrom w.captured ∧
    w.tick d = { w with
      captured := if w.live.differsFrom w.captured then w.live else w.captured
      elapsed := Duration.zero } := by
  have hdue : w.interval ≤ w.elapsed + d := due_iff.mpr h
  have hfinds : w.finds d = w.live.differsFrom w.captured := by
    rw [finds, decide_eq_true hdue, Bool.true_and]
  refine ⟨hfinds, ?_⟩
  rw [tick, hfinds, elapsedAfter, if_pos hdue]
  split <;> rfl

/-- Nanoseconds before a poll is due only move the timer. -/
theorem after_waits {n : Nat}
    (h : w.elapsed.nanoseconds + n < w.interval.nanoseconds) :
    w.findings (waits n) = 0 ∧
    w.after (waits n) = { w with elapsed := .saturating (w.elapsed.nanoseconds + n) } := by
  induction n generalizing w with
  | zero =>
    refine ⟨rfl, ?_⟩
    rw [Nat.add_zero, Duration.saturating_nanoseconds]
    rfl
  | succ n ih =>
    obtain ⟨hfinds, htick, helapsed⟩ := tick_of_early (w := w) (d := .nanosecond)
      (show w.elapsed.nanoseconds + 1 < _ by omega)
    replace helapsed : (w.tick .nanosecond).elapsed.nanoseconds = w.elapsed.nanoseconds + 1 :=
      helapsed
    obtain ⟨hnone, hafter⟩ := ih (w := w.tick .nanosecond) (by
      rw [helapsed, interval_tick]
      omega)
    refine ⟨?_, ?_⟩
    · show (w.finds .nanosecond).toNat + (w.tick .nanosecond).findings (waits n) = 0
      rw [hfinds, hnone]
      rfl
    · show (w.tick .nanosecond).after (waits n) = _
      rw [hafter, helapsed, htick, Nat.add_assoc, Nat.add_comm 1 n]

/-- The nanoseconds up to the time at which a poll is due do what a longer tick does. -/
theorem after_waits_due (hearly : w.elapsed.nanoseconds < w.interval.nanoseconds)
    (h : w.interval.nanoseconds ≤ w.elapsed.nanoseconds + d.nanoseconds) :
    w.findings (waits (w.interval.nanoseconds - w.elapsed.nanoseconds)) = (w.finds d).toNat ∧
    w.after (waits (w.interval.nanoseconds - w.elapsed.nanoseconds)) = w.tick d := by
  obtain ⟨n, hn⟩ : ∃ n, w.interval.nanoseconds - w.elapsed.nanoseconds = n + 1 :=
    ⟨w.interval.nanoseconds - w.elapsed.nanoseconds - 1, by omega⟩
  -- the last nanosecond makes the poll
  obtain ⟨hnone, hafter⟩ := after_waits (w := w) (n := n) (by omega)
  have hdue : (w.after (waits n)).interval.nanoseconds
      ≤ (w.after (waits n)).elapsed.nanoseconds + Duration.nanosecond.nanoseconds := by
    have := w.interval.bounded
    rw [hafter]
    show w.interval.nanoseconds
      ≤ (Duration.saturating (w.elapsed.nanoseconds + n)).nanoseconds + 1
    rw [Duration.nanoseconds_saturating]
    omega
  obtain ⟨hfinds, htick⟩ := tick_of_due hdue
  obtain ⟨hfinds', htick'⟩ := tick_of_due h
  have hlast : waits (n + 1) = waits n ++ [.tick .nanosecond] := Command.waits_add n 1
  refine ⟨?_, ?_⟩
  · rw [hn, hlast, findings_append, hnone, hfinds', Nat.zero_add]
    show ((w.after (waits n)).finds .nanosecond).toNat + 0 = _
    rw [hfinds, hafter]
    rfl
  · rw [hn, hlast, after_append, htick']
    show (w.after (waits n)).tick .nanosecond = _
    rw [htick, hafter]

/-- A tick does what its nanoseconds do until a poll is due. -/
theorem after_waits_min (hearly : w.elapsed.nanoseconds < w.interval.nanoseconds)
    (d : Duration) :
    let n := min d.nanoseconds (w.interval.nanoseconds - w.elapsed.nanoseconds)
    w.findings (waits n) = (w.finds d).toNat ∧ w.after (waits n) = w.tick d := by
  intro n
  by_cases hdue : w.interval.nanoseconds ≤ w.elapsed.nanoseconds + d.nanoseconds
  · have hn : n = w.interval.nanoseconds - w.elapsed.nanoseconds := Nat.min_eq_right (by omega)
    rw [hn]
    exact after_waits_due hearly hdue
  · have hn : n = d.nanoseconds := Nat.min_eq_left (by omega)
    obtain ⟨hfinds, htick, -⟩ := tick_of_early (w := w) (d := d) (by omega)
    rw [hn, hfinds, htick]
    exact after_waits (by omega)

/-- The timer stays below the interval. -/
theorem early_foldl (hearly : w.elapsed.nanoseconds < w.interval.nanoseconds)
    (rs : List Request) : (rs.foldl next w).elapsed.nanoseconds
      < (rs.foldl next w).interval.nanoseconds := by
  induction rs generalizing w with
  | nil => exact hearly
  | cons r rs ih =>
    refine ih (w := w.next r) ?_
    rw [interval_next]
    rcases r with (_ | _ | _ | p | d) | -
    case command.tick =>
      show (w.tick d).elapsed.nanoseconds < _
      rw [nanoseconds_tick]
      split <;> omega
    all_goals exact hearly

/-! ### Long ticks and short ones -/

/-- A command besides ticks does nothing to the timer, and finds nothing. -/
theorem next_of_not_tick {c : Command} (h : c.elapsed? = none) (w : Watch) :
    w.discovers c = false ∧ (w.next (.command c)).elapsed = w.elapsed ∧
    ∀ e : Duration, { w with elapsed := e }.next (.command c)
      = { w.next (.command c) with elapsed := e } := by
  cases c with
  | tick d => cases h
  | _ => exact ⟨rfl, rfl, fun _ => rfl⟩

/-- While no poll is due nothing is found, and the ticks have no part in what is captured. -/
theorem findings_of_early (cs : List Command)
    (h : w.elapsed.nanoseconds + span cs < w.interval.nanoseconds) (e : Duration) :
    w.findings cs = 0 ∧
    (w.after cs).captured = ({ w with elapsed := e }.after (edits cs)).captured := by
  induction cs generalizing w with
  | nil => exact ⟨rfl, rfl⟩
  | cons c cs ih =>
    rcases hc : c.elapsed? with - | d
    · obtain ⟨hnone, helapsed, huntimed⟩ := next_of_not_tick hc w
      have hedits : edits (c :: cs) = c :: edits cs := by
        rw [edits, List.filter_cons, hc]
        rfl
      obtain ⟨hrest, hcaptured⟩ := ih (w := w.next (.command c)) (by
        rw [helapsed, interval_next, ← Command.span_cons_of_none hc]
        exact h)
      refine ⟨?_, ?_⟩
      · rw [findings, hnone, hrest]
        rfl
      · show ((w.next (.command c)).after cs).captured = _
        rw [hcaptured, hedits, ← huntimed]
        rfl
    · have hedits : edits (c :: cs) = edits cs := by
        rw [edits, List.filter_cons, hc]
        rfl
      obtain rfl := Command.eq_tick hc
      rw [Command.span_cons_of_some hc] at h
      obtain ⟨hfinds, htick, helapsed⟩ := tick_of_early (w := w) (d := d) (by omega)
      obtain ⟨hrest, hcaptured⟩ := ih (w := w.tick d) (by
        rw [helapsed, interval_tick]
        omega)
      refine ⟨?_, ?_⟩
      · show (w.finds d).toNat + (w.tick d).findings cs = 0
        rw [hfinds, hrest]
        rfl
      · show ((w.tick d).after cs).captured = _
        rw [hcaptured, hedits, htick]

/-- Time in excess makes no difference when no further poll comes to be due. -/
theorem findings_waits_append {n : Nat}
    (h : w.elapsed.nanoseconds + n + span cs < w.interval.nanoseconds) :
    w.findings cs = w.findings (waits n ++ finest cs) ∧
    (w.after cs).captured = (w.after (waits n ++ finest cs)).captured := by
  have hspan : span (waits n ++ finest cs) = n + span cs := by
    rw [Command.span_append, Command.span_waits, Command.span_finest]
  have hedits : edits (waits n ++ finest cs) = edits cs := by
    rw [edits, List.filter_append]
    exact (congrArg (· ++ _) (Command.edits_waits n)).trans (Command.edits_finest cs)
  obtain ⟨hnone, hcaptured⟩ := findings_of_early (w := w) cs (by omega) w.elapsed
  obtain ⟨hnone', hcaptured'⟩ := findings_of_early (w := w) (waits n ++ finest cs) (by omega)
    w.elapsed
  rw [hnone, hnone', hcaptured, hcaptured', hedits]
  exact ⟨rfl, rfl⟩

/-- **Punctual ticks find what their nanoseconds find.** -/
theorem findings_finest (hearly : w.elapsed.nanoseconds < w.interval.nanoseconds)
    (h : punctual w.interval.nanoseconds w.elapsed.nanoseconds cs = true) :
    w.findings cs = w.findings (finest cs) ∧
    (w.after cs).captured = (w.after (finest cs)).captured := by
  induction cs generalizing w with
  | nil => exact ⟨rfl, rfl⟩
  | cons c cs ih =>
    rw [punctual] at h
    rw [finest]
    rcases hc : c.elapsed? with - | d
    · simp only [hc] at h
      obtain ⟨-, helapsed, -⟩ := next_of_not_tick hc w
      obtain ⟨hfindings, hcaptured⟩ := ih (w := w.next (.command c))
        (by rw [helapsed, interval_next]; exact hearly)
        (by rw [helapsed, interval_next]; exact h)
      exact ⟨congrArg (_ + ·) hfindings, hcaptured⟩
    · simp only [hc, Bool.and_eq_true, decide_eq_true_eq] at h
      obtain ⟨hlate, hrest⟩ := h
      obtain rfl := Command.eq_tick hc
      obtain ⟨n, hn⟩ : ∃ n, d.nanoseconds
          = min d.nanoseconds (w.interval.nanoseconds - w.elapsed.nanoseconds) + n :=
        Nat.exists_eq_add_of_le (Nat.min_le_left _ _)
      obtain ⟨hnow, hafter⟩ := after_waits_min hearly d
      have helapsed := nanoseconds_tick w d
      have hinterval := interval_tick w d
      -- the nanoseconds of the tick, and those of them that come after the poll
      have hsplit : waits d.nanoseconds ++ finest cs
          = waits (min d.nanoseconds (w.interval.nanoseconds - w.elapsed.nanoseconds))
            ++ (waits n ++ finest cs) := by
        rw [← List.append_assoc, ← Command.waits_add, ← hn]
      have hagree : (w.tick d).findings cs = (w.tick d).findings (waits n ++ finest cs) ∧
          ((w.tick d).after cs).captured
            = ((w.tick d).after (waits n ++ finest cs)).captured := by
        rcases Nat.eq_zero_or_pos n with rfl | hpos
        · refine ih (w := w.tick d) ?_ ?_
          · rw [helapsed, hinterval]
            split <;> omega
          · rw [helapsed, hinterval]
            exact hrest
        · have hleft := hlate (by omega)
          refine findings_waits_append ?_
          rw [helapsed, hinterval, if_pos (by omega)]
          omega
      simp only
      rw [hsplit, findings_append, after_append, hnow, hafter]
      exact ⟨congrArg (_ + ·) hagree.1, hagree.2⟩

end Watch

/-! ### Growers -/

/-- The report says that a poll found edited parameters. -/
def Event.isNotice : Event → Bool
  | .parametersChanged => true
  | _ => false

namespace Grower

variable {σ : Type}

/-- How many polls have reported edited parameters. -/
def notices (g : Grower σ) : Nat := g.outbox.toList.countP Event.isNotice

theorem notices_eq (g : Grower σ) : g.notices = g.announced.countP Event.isNotice := by
  rw [announced, List.countP_filter, notices]
  refine List.countP_congr fun e _ => ?_
  cases e <;> simp [Event.isNotice, Event.isAnnouncement]

variable [Scene σ]

theorem notices_apply (g : Grower σ) (c : Command) :
    (g.apply c).notices = g.notices + (g.watch.discovers c).toNat := by
  rcases hc : c.isTick with - | -
  · have hnone : ((g.watch.begun [c]).map Parameters.startEvent).countP Event.isNotice = 0 := by
      rw [List.countP_eq_zero]
      intro e he
      obtain ⟨p, -, rfl⟩ := List.mem_map.mp he
      exact Bool.false_ne_true
    rw [notices_eq, announced_apply hc, List.countP_append, hnone, notices_eq, Watch.discovers, hc]
    rfl
  · cases c with
    | tick d =>
      rw [notices_eq, announced_apply_tick, List.countP_append, Watch.begun_tick, notices_eq]
      show _ + _ = _ + (g.watch.finds d).toNat
      rcases g.watch.finds d with - | - <;> rfl
    | _ => cases hc

/-- The edits that are reported along commands are told from the watch. -/
theorem notices_applyAll (g : Grower σ) (cs : List Command) :
    (g.applyAll cs).notices = g.notices + g.watch.findings cs := by
  induction cs generalizing g with
  | nil => rfl
  | cons c cs ih =>
    have hwatch : (g.apply c).watch = g.watch.next (.command c) := watch_respond g (.command c)
    show ((g.apply c).applyAll cs).notices = _
    rw [ih, notices_apply, hwatch, Nat.add_assoc]
    rfl

theorem buffered_applyAll_eq (g : Grower σ) (cs : List Command) :
    (g.applyAll cs).buffered = (g.watch.after cs).captured :=
  congrArg Watch.captured (watch_applyAll g cs)

/-- The timer of a grower stays below the interval. -/
theorem elapsed_lt_interval (config : GrowthConfig) (p : Parameters) (scene : Option σ)
    (rs : List Request) (hpos : 0 < config.pollInterval.nanoseconds) :
    ((begin config p scene).respondAll rs).pollElapsed.nanoseconds
      < config.pollInterval.nanoseconds := by
  have hinterval := Watch.interval_foldl (begin config p scene).watch rs
  have hearly := Watch.early_foldl (w := (begin config p scene).watch) hpos rs
  rw [hinterval, ← watch_respondAll] at hearly
  exact hearly

/-- **The frame rate does not matter to punctual ticks.**  A host has asked anything of a new
grower with a poll interval, and lets time pass then in one of two ways.  They come to the same
time, and the commands besides ticks are sent at the same times.  If both ways are punctual, or if
the time is too short for two polls, equally many edits are reported by the end, and the captured
parameters are the same. -/
theorem notices_resplit (config : GrowthConfig) (p : Parameters) (scene : Option σ)
    (rs : List Request) (hpos : 0 < config.pollInterval.nanoseconds) (cs cs' : List Command)
    (hschedule : schedule 0 cs = schedule 0 cs') (hspan : span cs = span cs') :
    let g := (begin config p scene).respondAll rs
    let interval := config.pollInterval.nanoseconds
    let elapsed := g.pollElapsed.nanoseconds
    (punctual interval elapsed cs = true ∧ punctual interval elapsed cs' = true) ∨
        elapsed + span cs < 2 * interval →
      (g.applyAll cs).notices = (g.applyAll cs').notices ∧
      (g.applyAll cs).buffered = (g.applyAll cs').buffered := by
  intro g interval elapsed h
  have hinterval : g.watch.interval = config.pollInterval := by
    rw [watch_respondAll]
    exact Watch.interval_foldl _ rs
  have hearly : elapsed < interval := elapsed_lt_interval config p scene rs hpos
  have hpunctual : punctual interval elapsed cs = true ∧ punctual interval elapsed cs' = true := by
    rcases h with h | h
    · exact h
    · exact ⟨Command.punctual_of_span_lt hearly h,
        Command.punctual_of_span_lt hearly (by rwa [← hspan])⟩
  have hfinest : finest cs = finest cs' := by
    rw [Command.finest_eq_weave 0 cs, Command.finest_eq_weave 0 cs', hschedule, hspan]
  have hwatch : ∀ ds, punctual interval elapsed ds = true →
      g.watch.findings ds = g.watch.findings (finest ds) ∧
      (g.watch.after ds).captured = (g.watch.after (finest ds)).captured := by
    intro ds hds
    refine Watch.findings_finest ?_ ?_
    · rw [hinterval]
      exact hearly
    · rw [hinterval]
      exact hds
  obtain ⟨hfindings, hcaptured⟩ := hwatch cs hpunctual.1
  obtain ⟨hfindings', hcaptured'⟩ := hwatch cs' hpunctual.2
  rw [notices_applyAll, notices_applyAll, buffered_applyAll_eq, buffered_applyAll_eq, hfindings,
    hfindings', hcaptured, hcaptured', hfinest]
  exact ⟨rfl, rfl⟩

/-- Two ways through three polls, the last of them found late by the longer tick. -/
theorem notices_resplit_frames :
    let p := { Parameters.standard with iterations := 0 }
    let tick := fun n => Command.tick (Duration.ofMilliseconds n)
    let edit := fun angle => Command.update { p with angle }
    let g := (begin (GrowthConfig.ofSeed 7) p (none : Option SceneStore)).respondAll
      [.command (tick 50)]
    let cs := [tick 150, edit 30, tick 200, edit 40, tick 230]
    let cs' := [tick 75, tick 75, edit 30, tick 120, tick 80, edit 40, tick 30, tick 170, tick 30]
    (g.applyAll cs).notices = 2 ∧ (g.applyAll cs').notices = 2 ∧
      (g.applyAll cs).buffered = (g.applyAll cs').buffered := by
  intro p tick edit g cs cs'
  have hpos : 0 < (GrowthConfig.ofSeed 7).pollInterval.nanoseconds := by decide +kernel
  have hschedule : schedule 0 cs = schedule 0 cs' := by decide +kernel
  have hspan : span cs = span cs' := by decide +kernel
  have htwo : (g.applyAll cs).notices = 2 := by decide +kernel
  obtain ⟨hnotices, hbuffered⟩ := notices_resplit (GrowthConfig.ofSeed 7) p
    (none : Option SceneStore) [.command (tick 50)] hpos cs cs' hschedule hspan
    (.inl (by decide +kernel))
  exact ⟨htwo, hnotices.symm.trans htwo, hbuffered⟩

/-- Ticks that are no longer than the interval need not be punctual.  The poll of the second way
comes 100 milliseconds too late, and the next one is due 100 milliseconds after the end. -/
theorem notices_late :
    let p := { Parameters.standard with iterations := 0 }
    let tick := fun n => Command.tick (Duration.ofMilliseconds n)
    let edit := Command.update { p with angle := 30 }
    let g := begin (GrowthConfig.ofSeed 7) p (none : Option SceneStore)
    let cs := [tick 100, tick 100, tick 100, edit, tick 100]
    let cs' := [tick 150, tick 150, edit, tick 100]
    (0 < g.config.pollInterval.nanoseconds ∧ schedule 0 cs = schedule 0 cs' ∧
      span cs = span cs' ∧
      ∀ d ∈ Command.ticks (cs ++ cs'), d.nanoseconds ≤ g.config.pollInterval.nanoseconds) ∧
    (g.applyAll cs).notices = 1 ∧ (g.applyAll cs').notices = 0 ∧
      (g.applyAll cs).buffered ≠ (g.applyAll cs').buffered := by
  decide +kernel

end Grower

end TurtleTree
