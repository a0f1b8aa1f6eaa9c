/-
TurtleTree/Proofs/Growth/Schedule.lean

Commands along the time.

A host may let the same time pass in few long ticks or in many short ones, and send its
other commands at the same times.  Commands are therefore told here by a schedule of
those that are no ticks (`Command.schedule`) and by the time altogether (`Command.span`).
Among all ways through one schedule there is a finest, with ticks of one nanosecond
(`Command.finest`).

Main result: the schedule and the time altogether determine the finest way
(`Command.finest_eq_weave`).
-/
import TurtleTree.Proofs.Growth.Polling

namespace TurtleTree

/-! ### Times -/

/-- The shortest wait there is. -/
def Duration.nanosecond : Duration := ⟨1, by decide⟩

theorem Duration.saturating_nanoseconds (d : Duration) : saturating d.nanoseconds = d := by
  refine eq_of_nanoseconds ?_
  have := d.bounded
  rw [nanoseconds_saturating]
  omega

namespace Command

/-- Nanoseconds that commands let pass. -/
def span (cs : List Command) : Nat := Duration.span (ticks cs)

/-- The commands besides ticks, with the times at which they are sent. -/
def schedule (t : Nat) : List Command → List (Nat × Command)
  | [] => []
  | c :: cs =>
    match c.elapsed? with
    | none => (t, c) :: schedule t cs
    | some d => schedule (t + d.nanoseconds) cs

/-- Whenever a tick ends after the time at which a poll is due, less than an interval is left
from that time to the end.  The timer begins with `elapsed`. -/
def punctual (interval elapsed : Nat) : List Command → Bool
  | [] => true
  | c :: cs =>
    match c.elapsed? with
    | none => punctual interval elapsed cs
    | some d =>
      decide (interval < elapsed + d.nanoseconds →
        elapsed + d.nanoseconds + span cs < 2 * interval) &&
      punctual interval
        (if interval ≤ elapsed + d.nanoseconds then 0 else elapsed + d.nanoseconds) cs

/-- Ticks of one nanosecond. -/
def waits (n : Nat) : List Command := List.replicate n (.tick Duration.nanosecond)

/-- The commands with every tick split into the shortest ones. -/
def finest : List Command → List Command
  | [] => []
  | c :: cs =>
    match c.elapsed? with
    | none => c :: finest cs
    | some d => waits d.nanoseconds ++ finest cs

/-- Commands of a schedule, with the shortest ticks between them, from one time to another. -/
def weave (t T : Nat) : List (Nat × Command) → List Command
  | [] => waits (T - t)
  | (s, c) :: es => waits (s - t) ++ c :: weave s T es

variable {c : Command} {cs : List Command} {d : Duration}

theorem eq_tick (h : c.elapsed? = some d) : c = .tick d := by
  cases c with
  | tick e => exact congrArg tick (Option.some.inj h)
  | _ => cases h

theorem span_cons_of_none (h : c.elapsed? = none) : span (c :: cs) = span cs := by
  rw [span, Grower.ticks_cons, h]
  rfl

theorem span_cons_of_some (h : c.elapsed? = some d) :
    span (c :: cs) = d.nanoseconds + span cs := by
  rw [span, Grower.ticks_cons, h]
  rfl

/-- A time too short for two polls is passed punctually. -/
theorem punctual_of_span_lt {interval elapsed : Nat} (he : elapsed < interval)
    (h : elapsed + span cs < 2 * interval) : punctual interval elapsed cs = true := by
  induction cs generalizing elapsed with
  | nil => rfl
  | cons c cs ih =>
    rw [punctual]
    rcases hc : c.elapsed? with - | d
    · rw [span_cons_of_none hc] at h
      exact ih he h
    · rw [span_cons_of_some hc] at h
      simp only [Bool.and_eq_true, decide_eq_true_eq]
      refine ⟨fun _ => by omega, ih ?_ ?_⟩
      · split <;> omega
      · split <;> omega

theorem span_append (cs ds : List Command) : span (cs ++ ds) = span cs + span ds := by
  rw [span, ticks, List.filterMap_append]
  exact Duration.span_append _ _

theorem waits_add (m n : Nat) : waits (m + n) = waits m ++ waits n :=
  List.replicate_add m n _

theorem span_waits (n : Nat) : span (waits n) = n := by
  induction n with
  | zero => rfl
  | succ n ih =>
    show span (_ :: waits n) = _
    rw [span_cons_of_some rfl, ih]
    exact Nat.add_comm 1 n

theorem le_of_mem_schedule {t : Nat} {e : Nat × Command} (h : e ∈ schedule t cs) : t ≤ e.1 := by
  induction cs generalizing t with
  | nil => exact absurd h List.not_mem_nil
  | cons c cs ih =>
    rw [schedule] at h
    rcases hc : c.elapsed? with - | d <;> simp only [hc] at h
    · rcases List.mem_cons.mp h with rfl | h
      · exact Nat.le_refl _
      · exact ih h
    · exact Nat.le_trans (Nat.le_add_right _ _) (ih h)

/-- A wait before the first command of a schedule can be taken out. -/
theorem weave_add {t n T : Nat} {es : List (Nat × Command)} (hT : t + n ≤ T)
    (h : ∀ e ∈ es, t + n ≤ e.1) : weave t T es = waits n ++ weave (t + n) T es := by
  rcases es with - | ⟨⟨s, c⟩, es⟩
  · rw [weave, weave, ← waits_add]
    congr 1
    omega
  · have hs : t + n ≤ s := h _ List.mem_cons_self
    rw [weave, weave, ← List.append_assoc, ← waits_add]
    congr 2
    omega

/-- **The finest splitting** is told by the schedule and the time altogether. -/
theorem finest_eq_weave (t : Nat) (cs : List Command) :
    finest cs = weave t (t + span cs) (schedule t cs) := by
  induction cs generalizing t with
  | nil =>
    show [] = waits (t + 0 - t)
    rw [Nat.add_zero, Nat.sub_self]
    rfl
  | cons c cs ih =>
    rw [finest, schedule]
    rcases hc : c.elapsed? with - | d
    · simp only
      rw [span_cons_of_none hc, weave, Nat.sub_self, ← ih]
      rfl
    · simp only
      rw [span_cons_of_some hc, ih (t + d.nanoseconds), ← Nat.add_assoc]
      refine (weave_add (Nat.le_add_right _ _) fun e he => ?_).symm
      exact le_of_mem_schedule he

/-- Splitting a tick does not change the time. -/
theorem span_finest (cs : List Command) : span (finest cs) = span cs := by
  induction cs with
  | nil => rfl
  | cons c cs ih =>
    rw [finest]
    rcases hc : c.elapsed? with - | d
    · simp only
      rw [span_cons_of_none hc, span_cons_of_none hc, ih]
    · simp only
      rw [span_cons_of_some hc, span_append, span_waits, ih]

/-- The commands besides ticks. -/
def edits (cs : List Command) : List Command := cs.filter fun c => c.elapsed?.isNone

theorem edits_waits (n : Nat) : edits (waits n) = [] :=
  List.filter_replicate_of_neg Bool.false_ne_true

/-- Nor does it change the other commands. -/
theorem edits_finest (cs : List Command) : edits (finest cs) = edits cs := by
  induction cs with
  | nil => rfl
  | cons c cs ih =>
    rw [finest, edits, edits, List.filter_cons]
    rcases hc : c.elapsed? with - | d
    · simp only [List.filter_cons, hc]
      exact congrArg (c :: ·) ih
    · simp only [List.filter_append]
      exact (congrArg (· ++ _) (edits_waits _)).trans ih

end Command

end TurtleTree
