/-
TurtleTree/Proofs/Turtle/Connected.lean

Whatever string is drawn, it comes out as one tree.

A segment starts where the turtle stands.  The turtle leaves its place in two
ways only: forward, along the segment that it draws, or back to a pose it has
saved.  So all places it holds on to, in its pose, its stack and its tip, are
the root or ends of segments drawn before (`Turtle.Rooted`).  One symbol keeps
this, a closing bracket without an opening one included (`Rooted.step`), hence
every string does (`Rooted.run`).  Nothing is said about the positions
themselves, so no rounding can break the tree apart.

Main result: the items of a string are segments and leaves in the right places,
and each of them continues what was drawn before (`connected_items`).
-/
import TurtleTree.Proofs.Scene.Batch
import TurtleTree.Proofs.Turtle.Moves

namespace TurtleTree

/-- Where the segments among the items end, in order. -/
def segmentEnds (items : List (Option Emission)) : List Vector3 :=
  items.filterMap fun item => (item.bind Emission.segment?).map Segment.finish

@[simp] theorem segmentEnds_nil : segmentEnds [] = [] := rfl

theorem segmentEnds_cons (item : Option Emission) (items : List (Option Emission)) :
    segmentEnds (item :: items) = segmentEnds [item] ++ segmentEnds items :=
  List.filterMap_append (l := [item])

namespace Turtle

variable {c : DrawingContext} {t : Turtle} {x : Char} {root : Vector3} {ends : List Vector3}

/-! ### Single symbols -/

/-- Segments come from forward moves. -/
theorem exists_segment_step_iff (hbranches : c.emitBranches = true) :
    (∃ s, (t.step c x).2 = some (.segment s)) ↔ isForward x = true := by
  obtain ⟨hx, hstep⟩ | ⟨rfl, hstep⟩ | ⟨rfl, hstep⟩ | ⟨hx, -, -, turn, hstep⟩ := step_cases c x
  · simp [hstep, hbranches, hx]
  · simp [hstep, isForward]
  · rcases ht : t.tip with - | tip <;> simp [hstep, ht, isForward]
  · simp [hstep, hx]

/-- Leaves come from closing brackets, once there is a tip. -/
theorem exists_leaf_step_iff (hleaves : c.emitLeaves = true) :
    (∃ l, (t.step c x).2 = some (.leaf l)) ↔ x = ']' ∧ t.tip.isSome = true := by
  obtain ⟨hx, hstep⟩ | ⟨rfl, hstep⟩ | ⟨rfl, hstep⟩ | ⟨-, -, hclose, turn, hstep⟩ :=
    step_cases c x
  · simp [hstep, (ne_bracket_of_isForward hx).2]
  · simp [hstep]
  · rcases ht : t.tip with - | tip <;> simp [hstep, ht, hleaves]
  · simp [hstep, hclose]

/-- A segment starts where the turtle stands. -/
theorem start_of_step {s : Segment} (h : (t.step c x).2 = some (.segment s)) :
    s.start = t.pose.position := by
  obtain ⟨-, hstep⟩ | ⟨rfl, hstep⟩ | ⟨rfl, hstep⟩ | ⟨-, -, -, turn, hstep⟩ := step_cases c x
  · rcases hb : c.emitBranches with - | -
    · simp [hstep, hb] at h
    · simp only [hstep, hb, if_true, Option.some.injEq, Emission.segment.injEq] at h
      rw [← h]
  · simp [hstep] at h
  · rcases ht : t.tip with - | tip <;> simp [hstep, ht] at h
  · simp [hstep] at h

/-- A leaf grows at the tip. -/
theorem anchor_of_step {l : Leaf} (h : (t.step c x).2 = some (.leaf l)) :
    t.tip.map Pose.position = some l.anchor := by
  obtain ⟨-, hstep⟩ | ⟨rfl, hstep⟩ | ⟨rfl, hstep⟩ | ⟨-, -, -, turn, hstep⟩ := step_cases c x
  · simp [hstep] at h
  · simp [hstep] at h
  · rcases ht : t.tip with - | tip
    · simp [hstep, ht] at h
    · simp only [hstep, ht, Option.map_some, Option.ite_none_right_eq_some,
        Option.some.injEq, Emission.leaf.injEq] at h
      rw [← h.2]
      rfl
  · simp [hstep] at h

/-- A turtle has a tip from its first forward move on. -/
theorem isSome_tip_step : (t.step c x).1.tip.isSome = (t.tip.isSome || isForward x) := by
  obtain ⟨hx, hstep⟩ | ⟨rfl, hstep⟩ | ⟨rfl, hstep⟩ | ⟨hx, -, -, turn, hstep⟩ := step_cases c x
  · simp [hstep, hx]
  · simp [hstep, isForward]
  · simp [hstep, isForward]
  · simp [hstep, hx, turned]

theorem isSome_tip_run (s : List Char) :
    (t.run c s).2.tip.isSome = (t.tip.isSome || s.any isForward) := by
  induction s generalizing t with
  | nil => simp
  | cons x s ih => rw [run_cons, ih, isSome_tip_step, List.any_cons, Bool.or_assoc]

/-! ### Rooted turtles -/

/-- Every place the turtle holds on to is the root or the end of a segment, and its tip is
the end of the latest. -/
structure Rooted (root : Vector3) (ends : List Vector3) (t : Turtle) : Prop where
  position : t.pose.position ∈ root :: ends
  stack : ∀ p ∈ t.stack.poses, p.position ∈ root :: ends
  tip : t.tip.map Pose.position = ends.getLast?

theorem rooted_start : start.Rooted Pose.origin.position [] where
  position := List.mem_cons_self
  stack := by
    intro p hp
    exact absurd hp List.not_mem_nil
  tip := rfl

namespace Rooted

/-- Going on from a pose that was saved, or staying in place, is going on from a joint. -/
theorem popped (h : t.Rooted root ends) :
    (t.stack.pop.1.getD t.pose).position ∈ root :: ends ∧
      ∀ p ∈ t.stack.pop.2.poses, p.position ∈ root :: ends := by
  obtain ⟨pose, ⟨poses⟩, tip⟩ := t
  rcases poses with - | ⟨saved, poses⟩
  -- without an opening bracket the turtle stays where it is
  · exact ⟨h.position, h.stack⟩
  · exact ⟨h.stack saved List.mem_cons_self, fun p hp => h.stack p (List.mem_cons_of_mem _ hp)⟩

/-- **A symbol keeps the turtle on the tree.** -/
theorem step (hbranches : c.emitBranches = true) (h : t.Rooted root ends) (x : Char) :
    (t.step c x).1.Rooted root (ends ++ segmentEnds [(t.step c x).2]) := by
  obtain ⟨-, hstep⟩ | ⟨rfl, hstep⟩ | ⟨rfl, hstep⟩ | ⟨-, -, -, turn, hstep⟩ := step_cases c x
  · have hends : segmentEnds [(t.step c x).2] = [(t.ahead c).position] := by
      simp [hstep, hbranches, segmentEnds, Emission.segment?]
    have hgrown : ∀ q, q ∈ root :: ends → q ∈ root :: (ends ++ [(t.ahead c).position]) := by
      intro q hq
      exact List.mem_append_left _ hq
    rw [hends, hstep]
    exact ⟨by simp, fun p hp => hgrown _ (h.stack p hp), by simp⟩
  · rw [hstep]
    refine ⟨by simpa [segmentEnds] using h.position, ?_, by simpa [segmentEnds] using h.tip⟩
    intro p hp
    rcases List.mem_cons.mp hp with rfl | hp
    · simpa [segmentEnds] using h.position
    · simpa [segmentEnds] using h.stack p hp
  · have hends : segmentEnds [(t.step c ']').2] = [] := by
      rcases ht : t.tip with - | tip <;> rcases hl : c.emitLeaves with - | - <;>
        simp [hstep, ht, hl, segmentEnds, Emission.segment?]
    rw [hends, List.append_nil, hstep]
    exact ⟨h.popped.1, h.popped.2, h.tip⟩
  · have hends : segmentEnds [(t.step c x).2] = [] := by simp [hstep, segmentEnds]
    rw [hends, List.append_nil, hstep]
    exact ⟨h.position, h.stack, h.tip⟩

/-- **A string keeps the turtle on the tree**, also if its brackets do not match. -/
theorem run (hbranches : c.emitBranches = true) (h : t.Rooted root ends) (s : List Char) :
    (t.run c s).2.Rooted root (ends ++ segmentEnds (t.run c s).1) := by
  induction s generalizing t ends with
  | nil => simpa using h
  | cons x s ih =>
    rw [run_cons, segmentEnds_cons, ← List.append_assoc]
    exact ih (h.step hbranches x)

end Rooted

end Turtle

/-! ### Whole strings -/

/-- **One connected tree.**  Drawn from the origin with both kinds of emissions, any string
whatever leaves a segment for each forward move, a leaf for each closing bracket with a
forward move before it, and nothing else.  A segment starts at the origin or at the end of an
earlier one, a leaf grows at the end of the latest segment, and at every point of the string
the turtle, its stack and its tip are at the origin or at ends of segments drawn so far. -/
theorem connected_items (p : Parameters) (v : VarianceTable) (m : Option Material)
    (symbols : String) :
    let reading := Interpretation.begin ⟨p, v, m, true, true⟩ symbols
    let items := reading.finish.1
    items.length = symbols.length ∧ ∀ i : Nat,
      ((∃ s, items[i]? = some (some (.segment s))) ↔
        ∃ x, symbols.toList[i]? = some x ∧ Turtle.isForward x = true) ∧
      ((∃ l, items[i]? = some (some (.leaf l))) ↔
        symbols.toList[i]? = some ']' ∧
          ∃ x ∈ symbols.toList.take i, Turtle.isForward x = true) ∧
      (∀ s, items[i]? = some (some (.segment s)) →
        s.start ∈ Pose.origin.position :: segmentEnds (items.take i)) ∧
      (∀ l, items[i]? = some (some (.leaf l)) →
        (segmentEnds (items.take i)).getLast? = some l.anchor) ∧
      (reading.take i).2.turtle.Rooted Pose.origin.position (segmentEnds (items.take i)) := by
  intro reading items
  have hitems : items = (Turtle.start.run ⟨p, v, m, true, true⟩ symbols.toList).1 :=
    Interpretation.finish_begin _ symbols
  refine ⟨by rw [hitems, Turtle.length_run, String.length_toList], fun i => ?_⟩
  -- the turtle that meets the symbol, and what it leaves behind there
  have hrooted : (reading.take i).2.turtle.Rooted Pose.origin.position
      (segmentEnds (items.take i)) := by
    rw [hitems, ← Turtle.run_take]
    exact Turtle.rooted_start.run rfl (symbols.toList.take i)
  have htip : (reading.take i).2.turtle.tip.isSome
      = (symbols.toList.take i).any Turtle.isForward :=
    Turtle.isSome_tip_run (t := Turtle.start) (symbols.toList.take i)
  have hitem : items[i]? = symbols.toList[i]?.map fun x =>
      ((reading.take i).2.turtle.step ⟨p, v, m, true, true⟩ x).2 := by
    rw [hitems, Turtle.getElem?_run]
    rfl
  clear_value items
  generalize (reading.take i).2.turtle = t at hrooted htip hitem ⊢
  rw [hitem]
  rcases symbols.toList[i]? with - | x
  · simpa using hrooted
  · simp only [Option.map_some, Option.some.injEq]
    refine ⟨?_, ?_, ?_, ?_, hrooted⟩
    · rw [Turtle.exists_segment_step_iff rfl]
      simp
    · rw [Turtle.exists_leaf_step_iff rfl, htip, List.any_eq_true]
    · intro s hs
      rw [Turtle.start_of_step hs]
      exact hrooted.position
    · intro l hl
      rw [← hrooted.tip]
      exact Turtle.anchor_of_step hl

end TurtleTree
