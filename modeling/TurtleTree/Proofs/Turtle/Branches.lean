/-
TurtleTree/Proofs/Turtle/Branches.lean

Branches leave the turtle as they found it.

While a string closes no more brackets than it opens, the stack that was there
before stays below what the string saves (`exists_above`).  So after a balanced
string in brackets the closing bracket meets the very pose that the opening one
saved, and the turtle is back in its place with its old stack; only its tip has
moved on.  Two turtles in the same place read any string alike, also one that
closes more brackets than it opens, and draw the same segments
(`SamePlace.run`).

Main results: a branch makes no difference to what is drawn after it
(`branch_transparent`), and all that the catalogue expands to is a tree of such
branches, at most three deep for each pass (`nesting_expansion`).
-/
import TurtleTree.Proofs.Grammar.Brackets
import TurtleTree.Proofs.Grammar.Passes
import TurtleTree.Proofs.Scene.Batch
import TurtleTree.Proofs.Turtle.Moves

namespace TurtleTree

open Brackets

namespace Turtle

variable {c : DrawingContext} {t t' : Turtle}

/-- The turtle after a string. -/
def after (c : DrawingContext) (t : Turtle) (s : List Char) : Turtle := (t.run c s).2

theorem after_cons (x : Char) (s : List Char) :
    t.after c (x :: s) = (t.step c x).1.after c s := by
  simp only [after, run_cons]

theorem after_append (u v : List Char) : t.after c (u ++ v) = (t.after c u).after c v := by
  simp only [after, run_append]

/-! ### The stack below -/

/-- A symbol takes at most one pose from the top of the stack, or adds one. -/
theorem exists_above_step {above below : List Pose} (ht : t.stack.poses = above ++ below)
    {x : Char} (hx : 0 ≤ above.length + depth [x]) :
    ∃ above' : List Pose, (t.step c x).1.stack.poses = above' ++ below ∧
      (above'.length : Int) = above.length + depth [x] := by
  obtain ⟨hforward, hstep⟩ | ⟨rfl, hstep⟩ | ⟨rfl, hstep⟩ | ⟨-, hopen, hclose, turn, hstep⟩ :=
    step_cases c x
  · obtain ⟨hopen, hclose⟩ := ne_bracket_of_isForward hforward
    refine ⟨above, ?_, by rw [depth_singleton hopen hclose, Int.add_zero]⟩
    rw [hstep]
    exact ht
  · refine ⟨t.pose :: above, ?_, rfl⟩
    rw [hstep]
    exact congrArg (t.pose :: ·) ht
  · rcases above with - | ⟨saved, above⟩
    · exact absurd hx (by decide)
    · have hdepth : depth [']'] = -1 := rfl
      refine ⟨above, ?_, by rw [hdepth, List.length_cons]; omega⟩
      rw [hstep]
      exact congrArg List.tail ht
  · refine ⟨above, ?_, by rw [depth_singleton hopen hclose, Int.add_zero]⟩
    rw [hstep]
    exact ht

/-- **The stack below stays.**  A string that never closes more brackets than it opens, but
for those of the poses `above`, leaves the poses `below` in place. -/
theorem exists_above {above below : List Pose} (ht : t.stack.poses = above ++ below)
    {s : List Char} (hs : ∀ u, u <+: s → 0 ≤ above.length + depth u) :
    ∃ above' : List Pose, (t.after c s).stack.poses = above' ++ below ∧
      (above'.length : Int) = above.length + depth s := by
  induction s generalizing t above with
  | nil => exact ⟨above, ht, by rw [depth_nil, Int.add_zero]⟩
  | cons x s ih =>
    obtain ⟨above', ht', hlength⟩ := exists_above_step (c := c) ht (hs [x] ⟨s, rfl⟩)
    have hrest : ∀ u, u <+: s → 0 ≤ above'.length + depth u := by
      intro u hu
      have := hs (x :: u) (List.cons_prefix_cons.mpr ⟨rfl, hu⟩)
      rw [depth_cons] at this
      omega
    obtain ⟨above'', ht'', hlength'⟩ := ih ht' hrest
    refine ⟨above'', ?_, ?_⟩
    · rw [after_cons]
      exact ht''
    · rw [depth_cons]
      omega

/-- From an empty stack on, the depth of the stack is that of the string. -/
theorem depth_stack_after (ht : t.stack = PoseStack.empty) {s : List Char}
    (hs : ∀ u, u <+: s → 0 ≤ depth u) : ((t.after c s).stack.depth : Int) = depth s := by
  have hempty : t.stack.poses = [] ++ [] := by rw [ht]; rfl
  obtain ⟨above, habove, hlength⟩ := exists_above (c := c) hempty (s := s)
    (fun u hu => by simpa using hs u hu)
  have hposes : (t.after c s).stack.depth = above.length := by
    rw [PoseStack.depth, habove, List.append_nil]
  rw [hposes, hlength]
  simp

/-! ### Turtles in the same place -/

/-- The turtles differ at most in their tips. -/
structure SamePlace (t t' : Turtle) : Prop where
  pose : t.pose = t'.pose
  stack : t.stack = t'.stack

/-- The segments among the items, each at its position. -/
def segmentItems (items : List (Option Emission)) : List (Option Segment) :=
  items.map fun item => item.bind Emission.segment?

namespace SamePlace

/-- A symbol does the same to both, and draws the same segment if it draws one. -/
theorem step (h : t.SamePlace t') (x : Char) :
    (t.step c x).1.SamePlace (t'.step c x).1 ∧
      (t.step c x).2.bind Emission.segment? = (t'.step c x).2.bind Emission.segment? := by
  have hleaf : ∀ tip : Option Pose, ((if c.emitLeaves then
      tip.map fun tip => Emission.leaf (leafAt c tip) else none).bind Emission.segment?)
      = none := by
    intro tip
    rcases tip with - | tip <;> rcases c.emitLeaves with - | - <;> rfl
  obtain ⟨pose, stack, tip⟩ := t
  obtain ⟨pose', stack', tip'⟩ := t'
  obtain ⟨rfl, rfl⟩ := h
  obtain ⟨-, hstep⟩ | ⟨rfl, hstep⟩ | ⟨rfl, hstep⟩ | ⟨-, -, -, turn, hstep⟩ := step_cases c x
  · rw [hstep, hstep]
    exact ⟨⟨rfl, rfl⟩, rfl⟩
  · rw [hstep, hstep]
    exact ⟨⟨rfl, rfl⟩, rfl⟩
  -- the leaves at the two tips may differ, but there is no segment
  · rw [hstep, hstep]
    exact ⟨⟨rfl, rfl⟩, (hleaf _).trans (hleaf _).symm⟩
  · rw [hstep, hstep]
    exact ⟨⟨rfl, rfl⟩, rfl⟩

/-- **Turtles in the same place stay there** along any string, and draw the same segments. -/
theorem run (h : t.SamePlace t') (s : List Char) :
    (t.after c s).SamePlace (t'.after c s) ∧
      segmentItems (t.run c s).1 = segmentItems (t'.run c s).1 := by
  induction s generalizing t t' with
  | nil => exact ⟨h, rfl⟩
  | cons x s ih =>
    obtain ⟨hplace, hsegment⟩ := h.step (c := c) x
    obtain ⟨hplaces, hsegments⟩ := ih hplace
    refine ⟨?_, ?_⟩
    · rw [after_cons, after_cons]
      exact hplaces
    · rw [run_cons, run_cons]
      exact congrArg₂ List.cons hsegment hsegments

end SamePlace

/-! ### Branches -/

/-- Within a branch the pose where it began and the stack from before it lie below. -/
theorem exists_above_branch {w : List Char} (hw : ∀ u, u <+: w → 0 ≤ depth u) :
    ∃ above : List Pose,
      (t.after c ('[' :: w)).stack.poses = above ++ t.pose :: t.stack.poses ∧
        (above.length : Int) = depth w := by
  have hopen : (t.step c '[').1.stack.poses = [] ++ t.pose :: t.stack.poses := rfl
  obtain ⟨above, habove, hlength⟩ := exists_above (c := c) hopen (s := w)
    (fun u hu => by simpa using hw u hu)
  rw [after_cons]
  exact ⟨above, habove, by simpa using hlength⟩

/-- A branch brings the turtle back to where it began, with the stack it had. -/
theorem samePlace_branch {w : List Char} (hw : Balanced w) (t : Turtle) :
    (t.after c ('[' :: w ++ [']'])).SamePlace t := by
  obtain ⟨above, habove, hlength⟩ := exists_above_branch (c := c) (t := t)
    fun u hu => hw.depth_nonneg hu
  -- the string is balanced, so the pose on top is the one its bracket saved
  have hnone : above = [] := by
    rw [hw.depth_eq_zero] at hlength
    exact List.length_eq_zero_iff.mp (Int.ofNat_eq_zero.mp hlength)
  rw [hnone, List.nil_append] at habove
  rw [after_append]
  generalize t.after c ('[' :: w) = inner at habove ⊢
  obtain ⟨pose, ⟨poses⟩, tip⟩ := inner
  obtain rfl : poses = t.pose :: t.stack.poses := habove
  exact ⟨rfl, rfl⟩

/-- The items of the later of two strings. -/
theorem run_drop (u v : List Char) :
    (t.run c (u ++ v)).1.drop u.length = ((t.after c u).run c v).1 := by
  rw [run_append]
  exact List.drop_left' (length_run u)

/-- **Branches are transparent.**  From any turtle and in any context: after a string `u` and
a balanced string `w` in brackets the turtle is in the place where it was after `u`, with its
whole stack, and no symbol of `w` has touched what was saved up to its bracket.  So whatever
string `v` follows, at every point of it the turtle is in the same place as without the
branch, and its symbols draw the same segments. -/
theorem branch_transparent (c : DrawingContext) (t : Turtle) (u v w : List Char)
    (hw : Balanced w) :
    let branch := '[' :: w ++ [']']
    (t.after c (u ++ branch)).SamePlace (t.after c u) ∧
    (∀ w', w' <+: w → ∃ above : List Pose,
      (t.after c (u ++ '[' :: w')).stack.poses
        = above ++ (t.after c u).pose :: (t.after c u).stack.poses ∧
        (above.length : Int) = depth w') ∧
    (∀ v', v' <+: v →
      (t.after c (u ++ branch ++ v')).SamePlace (t.after c (u ++ v'))) ∧
    segmentItems ((t.run c (u ++ branch ++ v)).1.drop (u ++ branch).length)
      = segmentItems ((t.run c (u ++ v)).1.drop u.length) := by
  intro branch
  have hbranch : (t.after c (u ++ branch)).SamePlace (t.after c u) := by
    rw [after_append]
    exact samePlace_branch hw _
  refine ⟨hbranch, ?_, ?_, ?_⟩
  · intro w' hw'
    rw [after_append]
    exact exists_above_branch fun u' hu' => hw.depth_nonneg (hu'.trans hw')
  · intro v' _
    rw [after_append (u ++ branch), after_append u v']
    exact (hbranch.run v').1
  · rw [run_drop, run_drop]
    exact (hbranch.run v).2

/-- A branch with a branch in it, before a string that closes a bracket of neither. -/
theorem branch_transparent_nested :
    let c : DrawingContext := ⟨Parameters.standard, VarianceTable.zero, none, true, true⟩
    let u := "[F".toList
    let branch := "[+G[-F]*F]".toList
    Balanced "+G[-F]*F".toList ∧
      (start.after c (u ++ branch)).SamePlace (start.after c u) ∧
      segmentItems ((start.run c (u ++ branch ++ "F]G".toList)).1.drop (u ++ branch).length)
        = segmentItems ((start.run c (u ++ "F]G".toList)).1.drop u.length) := by
  intro c u branch
  have hw : Balanced "+G[-F]*F".toList := by decide +kernel
  obtain ⟨hplace, -, -, hsegments⟩ :=
    branch_transparent c start u "F]G".toList "+G[-F]*F".toList hw
  exact ⟨hw, hplace, hsegments⟩

end Turtle

/-! ### The catalogue -/

/-- **Expansions are well bracketed.**  For every rule set, also one that is not catalogued,
and any number of passes the expansion is balanced.  So in any context its drawing never takes
a pose from an empty stack and ends with an empty one, and the stack never holds more than
three poses for each pass.  A single pass of a catalogued rule set keeps any balanced string
balanced. -/
theorem nesting_expansion (id : RuleSetId) (n : UInt32) (c : DrawingContext) :
    let r := RuleSet.select id
    let symbols := (Expansion.begin r r.start n).finish
    let reading := Interpretation.begin c symbols
    Balanced symbols.toList ∧
    (∀ i : Nat, symbols.toList[i]? = some ']' →
      (reading.take i).2.turtle.stack.pop.1.isSome = true) ∧
    reading.finish.2.turtle.stack.isEmpty = true ∧
    (∀ i : Nat, (reading.take i).2.turtle.stack.depth ≤ 3 * n.toNat) ∧
    ∀ r ∈ RuleSet.catalogue, ∀ s : String, Balanced s.toList → Balanced (r.apply s).toList := by
  intro r symbols reading
  have hsymbols : symbols = r.applyTimes n.toNat r.start := Expansion.finish_begin r r.start n
  have hstart : r.start = RuleSet.commonStart := RuleSet.start_select id
  have hbalanced : Balanced symbols.toList := by
    rw [hsymbols, hstart]
    exact RuleSet.balanced_applyTimes (RuleSet.replaces_select id) _ (by decide +kernel)
  have hwithin : Within (3 * n.toNat) symbols.toList := by
    have hcommon : Within 0 RuleSet.commonStart.toList := by
      rw [Within, forall_prefix_iff]
      decide +kernel
    rw [hsymbols, hstart, ← Nat.zero_add (3 * n.toNat)]
    exact RuleSet.within_applyTimes (RuleSet.replaces_select id) _ hcommon
  have hdepth : ∀ i : Nat,
      ((reading.take i).2.turtle.stack.depth : Int) = depth (symbols.toList.take i) := by
    intro i
    exact Turtle.depth_stack_after (t := Turtle.start) rfl fun u hu =>
      hbalanced.depth_nonneg (hu.trans (List.take_prefix i _))
  refine ⟨hbalanced, ?_, ?_, ?_, ?_⟩
  · intro i hi
    -- with the closing bracket the depth is not below zero, so without it there is a pose
    have hnext := hbalanced.depth_nonneg (List.take_prefix (i + 1) symbols.toList)
    have hclose : depth [']'] = -1 := rfl
    rw [List.take_add_one, hi, Option.toList_some, depth_append, hclose, ← hdepth] at hnext
    rw [PoseStack.pop, List.isSome_head?, ← List.length_pos_iff]
    show 0 < (reading.take i).2.turtle.stack.depth
    omega
  · have hend := hdepth symbols.toList.length
    rw [List.take_length, hbalanced.depth_eq_zero] at hend
    rw [PoseStack.isEmpty, List.isEmpty_iff_length_eq_zero]
    exact Int.ofNat_eq_zero.mp hend
  · intro i
    have := hwithin _ (List.take_prefix i symbols.toList)
    rw [← hdepth i] at this
    omega
  · intro r hr s hs
    rw [RuleSet.toList_apply]
    exact hs.flatMap (RuleSet.replaces_of_mem_catalogue hr)

/-- The bound is attained, and a pass need not start from an expansion. -/
theorem nesting_expansion_deepest :
    let c : DrawingContext := ⟨Parameters.standard, VarianceTable.zero, none, true, true⟩
    let r := RuleSet.select ⟨8⟩
    let symbols := (Expansion.begin r r.start 1).finish
    let depth := fun i => ((Interpretation.begin c symbols).take i).2.turtle.stack.depth
    depth 8 = 3 ∧ (∀ i, depth i ≤ 3) ∧ Balanced (r.apply "[[]F]G[F]").toList := by
  intro c r symbols depth
  have hr : r ∈ RuleSet.catalogue := by decide +kernel
  have hs : Balanced "[[]F]G[F]".toList := by decide +kernel
  obtain ⟨-, -, -, hdepth, hpass⟩ := nesting_expansion ⟨8⟩ 1 c
  exact ⟨by decide +kernel, hdepth, hpass r hr _ hs⟩

end TurtleTree
