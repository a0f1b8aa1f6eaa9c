/-
TurtleTree/Proofs/Grammar/Brackets.lean

Brackets of symbol strings, and what a pass does to them.

The depth of a string is the number of brackets it leaves open.  A string is
balanced when no first part of it has a negative depth and its own depth is
zero (`Balanced`).

A pass replaces single symbols, so its depth at any point is the depth of the
old string at some point plus what the replacement of one symbol adds there.
All that is needed of a rule set is therefore a law about single replacements
(`Replaces`), which is checked for each rule of the catalogue by evaluation.

Main results: a pass keeps balanced strings balanced (`Balanced.flatMap`) and
adds a bounded depth (`Within.flatMap`), so after `n` passes of a catalogued
rule set the start string is balanced and at most `3 * n` deep
(`balanced_applyTimes`, `within_applyTimes`).
-/
import TurtleTree.Grammar.RuleSet
import Mathlib.Data.List.Infix

namespace TurtleTree

namespace Brackets

/-! ### Depth -/

/-- Number of brackets that are opened and not closed, below zero when more are closed. -/
def depth (s : List Char) : Int := s.count '[' - s.count ']'

@[simp] theorem depth_nil : depth [] = 0 := rfl

@[simp] theorem depth_append (s u : List Char) : depth (s ++ u) = depth s + depth u := by
  simp only [depth, List.count_append]
  omega

theorem depth_cons (x : Char) (s : List Char) : depth (x :: s) = depth [x] + depth s :=
  depth_append [x] s

/-- A symbol that is no bracket has no depth. -/
theorem depth_singleton {x : Char} (hopen : x ≠ '[') (hclose : x ≠ ']') : depth [x] = 0 := by
  simp [depth, hopen, hclose]

/-- No first part of the string closes more brackets than it opens, and the whole closes all
that it opens. -/
structure Balanced (s : List Char) : Prop where
  closed_le : ∀ u, u <+: s → u.count ']' ≤ u.count '['
  closed_eq : s.count ']' = s.count '['

/-- At most `d` brackets are open at any point of the string. -/
def Within (d : Nat) (s : List Char) : Prop := ∀ u, u <+: s → depth u ≤ d

theorem Balanced.depth_nonneg {s : List Char} (h : Balanced s) {u : List Char} (hu : u <+: s) :
    0 ≤ depth u := by
  have := h.closed_le u hu
  rw [depth]
  omega

theorem Balanced.depth_eq_zero {s : List Char} (h : Balanced s) : depth s = 0 := by
  rw [depth, h.closed_eq, Int.sub_self]

theorem balanced_of_depth {s : List Char} (hnonneg : ∀ u, u <+: s → 0 ≤ depth u)
    (hzero : depth s = 0) : Balanced s where
  closed_le := by
    intro u hu
    have := hnonneg u hu
    rw [depth] at this
    omega
  closed_eq := by
    rw [depth] at hzero
    omega

theorem forall_prefix_iff {P : List Char → Prop} {s : List Char} :
    (∀ u, u <+: s → P u) ↔ ∀ u ∈ s.inits, P u := by
  simp only [List.mem_inits]

instance (s : List Char) : Decidable (Balanced s) :=
  decidable_of_iff ((∀ u ∈ s.inits, u.count ']' ≤ u.count '[') ∧ s.count ']' = s.count '[')
    ⟨fun h => ⟨forall_prefix_iff.mpr h.1, h.2⟩, fun h => ⟨forall_prefix_iff.mp h.1, h.2⟩⟩

/-- A first part of two joined strings ends in the first or in the second. -/
theorem prefix_append_cases {s s' u : List Char} (h : u <+: s ++ s') :
    u <+: s ∨ ∃ w, w <+: s' ∧ u = s ++ w := by
  rcases List.prefix_or_prefix_of_prefix h (List.prefix_append s s') with hu | ⟨w, rfl⟩
  · exact Or.inl hu
  · exact Or.inr ⟨w, (List.prefix_append_right_inj s).mp h, rfl⟩

/-! ### Replacing single symbols -/

/-- The string `w` may stand for the symbol `x`: it has the depth of the symbol in the end,
and on the way closes no more than the symbol and opens at most `d` brackets more. -/
structure Replaces (d : Nat) (x : Char) (w : List Char) : Prop where
  depth_eq : depth w = depth [x]
  le_depth : ∀ u, u <+: w → min 0 (depth [x]) ≤ depth u
  depth_le : ∀ u, u <+: w → depth u ≤ max 0 (depth [x]) + d

instance (d : Nat) (x : Char) (w : List Char) : Decidable (Replaces d x w) :=
  decidable_of_iff (depth w = depth [x] ∧ (∀ u ∈ w.inits, min 0 (depth [x]) ≤ depth u)
      ∧ ∀ u ∈ w.inits, depth u ≤ max 0 (depth [x]) + d)
    ⟨fun h => ⟨h.1, forall_prefix_iff.mpr h.2.1, forall_prefix_iff.mpr h.2.2⟩,
      fun h => ⟨h.1, forall_prefix_iff.mp h.2, forall_prefix_iff.mp h.3⟩⟩

/-- A symbol may stand for itself. -/
theorem replaces_self (d : Nat) (x : Char) : Replaces d x [x] := by
  have hends : ∀ u, u <+: [x] → depth u = 0 ∨ depth u = depth [x] := by
    intro u hu
    rcases List.prefix_cons_iff.mp hu with rfl | ⟨w, rfl, hw⟩
    · exact Or.inl rfl
    · rw [List.prefix_nil.mp hw]
      exact Or.inr rfl
  refine ⟨rfl, fun u hu => ?_, fun u hu => ?_⟩
  · rcases hends u hu with h | h <;> omega
  · rcases hends u hu with h | h <;> omega

section Passes

variable {f : Char → List Char} {d : Nat} {s : List Char}

theorem depth_flatMap (hf : ∀ x, Replaces d x (f x)) (s : List Char) :
    depth (s.flatMap f) = depth s := by
  induction s with
  | nil => rfl
  | cons x s ih => rw [List.flatMap_cons, depth_append, ih, (hf x).depth_eq, ← depth_cons]

/-- **The depth of a pass** at any point is bounded by depths of the old string: it lies above
one of them and at most `d` above another. -/
theorem exists_prefix_of_flatMap (hf : ∀ x, Replaces d x (f x)) {u : List Char}
    (hu : u <+: s.flatMap f) :
    (∃ v, v <+: s ∧ depth v ≤ depth u) ∧ ∃ v, v <+: s ∧ depth u ≤ depth v + d := by
  -- from the end of the string, so that the part before a symbol stays as it is
  induction s using List.reverseRecOn with
  | nil =>
    rw [List.prefix_nil.mp hu]
    exact ⟨⟨[], List.prefix_rfl, by simp⟩, [], List.prefix_rfl, by simp⟩
  | append_singleton s x ih =>
    rw [List.flatMap_append, List.flatMap_singleton] at hu
    rcases prefix_append_cases hu with hu | ⟨w, hw, rfl⟩
    · obtain ⟨⟨v, hv, hlow⟩, v', hv', hhigh⟩ := ih hu
      exact ⟨⟨v, List.prefix_append_of_prefix hv, hlow⟩, v', List.prefix_append_of_prefix hv',
        hhigh⟩
    -- within the replacement of `x` the bounds are the depths before and after `x`
    · have hlow := (hf x).le_depth w hw
      have hhigh := (hf x).depth_le w hw
      have hbefore : depth (s.flatMap f ++ w) = depth s + depth w := by
        rw [depth_append, depth_flatMap hf]
      have hafter : depth (s ++ [x]) = depth s + depth [x] := depth_append s [x]
      constructor
      · rcases Int.le_total 0 (depth [x]) with h | h
        · exact ⟨s, List.prefix_append s [x], by omega⟩
        · exact ⟨s ++ [x], List.prefix_rfl, by omega⟩
      · rcases Int.le_total 0 (depth [x]) with h | h
        · exact ⟨s ++ [x], List.prefix_rfl, by omega⟩
        · exact ⟨s, List.prefix_append s [x], by omega⟩

/-- A pass keeps a balanced string balanced. -/
theorem Balanced.flatMap (hf : ∀ x, Replaces d x (f x)) (h : Balanced s) :
    Balanced (s.flatMap f) := by
  refine balanced_of_depth (fun u hu => ?_) ((depth_flatMap hf s).trans h.depth_eq_zero)
  obtain ⟨⟨v, hv, hlow⟩, -⟩ := exists_prefix_of_flatMap hf hu
  exact Int.le_trans (h.depth_nonneg hv) hlow

/-- A pass opens at most `d` brackets more than were open. -/
theorem Within.flatMap (hf : ∀ x, Replaces d x (f x)) {k : Nat} (h : Within k s) :
    Within (k + d) (s.flatMap f) := by
  intro u hu
  obtain ⟨-, v, hv, hhigh⟩ := exists_prefix_of_flatMap hf hu
  have := h v hv
  omega

end Passes

end Brackets

/-! ### Rule sets -/

namespace RuleSet

open Brackets

variable {r : RuleSet} {d : Nat}

/-- It is enough to look at the rules. -/
theorem replaces_image
    (h : ∀ rule ∈ r.rules, Replaces d rule.predecessor rule.successor.toList) (x : Char) :
    Replaces d x (r.image x) := by
  rcases r.image_cases x with ⟨rule, hrule, rfl, himage⟩ | ⟨-, himage⟩
  · rw [himage]
    exact h rule hrule
  · rw [himage]
    exact replaces_self d x

/-- No rule of the catalogue opens more than three brackets at once. -/
theorem replaces_of_mem_catalogue (h : r ∈ catalogue) (x : Char) : Replaces 3 x (r.image x) := by
  have hrules : ∀ r ∈ catalogue, ∀ rule ∈ r.rules,
      Replaces 3 rule.predecessor rule.successor.toList := by decide +kernel
  exact replaces_image (hrules r h) x

/-- Whatever its number, a rule set is a catalogued one or has no rules. -/
theorem select_cases (id : RuleSetId) :
    select id ∈ catalogue ∨ select id = ⟨id, commonStart, []⟩ := by
  rcases hfind : catalogue.find? fun r => r.id == id with - | r
  · refine Or.inr ?_
    rw [select, hfind, Option.getD_none]
  · refine Or.inl ?_
    rw [select, hfind, Option.getD_some]
    exact List.mem_of_find?_eq_some hfind

theorem replaces_select (id : RuleSetId) (x : Char) : Replaces 3 x ((select id).image x) := by
  rcases select_cases id with h | h
  · exact replaces_of_mem_catalogue h x
  · rw [h]
    exact replaces_image (fun rule hrule => absurd hrule List.not_mem_nil) x

theorem start_select (id : RuleSetId) : (select id).start = commonStart := by
  have hstart : ∀ r ∈ catalogue, r.start = commonStart := by decide +kernel
  rcases select_cases id with h | h
  · exact hstart _ h
  · rw [h]

/-- Passes keep a string balanced. -/
theorem balanced_applyTimes (hr : ∀ x, Replaces d x (r.image x)) (n : Nat) {s : String}
    (h : Balanced s.toList) : Balanced (r.applyTimes n s).toList := by
  induction n generalizing s with
  | zero => exact h
  | succ n ih =>
    refine ih ?_
    rw [toList_apply]
    exact h.flatMap hr

/-- Each pass opens a bounded number of brackets more. -/
theorem within_applyTimes (hr : ∀ x, Replaces d x (r.image x)) (n : Nat) {k : Nat} {s : String}
    (h : Within k s.toList) : Within (k + d * n) (r.applyTimes n s).toList := by
  induction n generalizing k s with
  | zero => exact h
  | succ n ih =>
    have hpass : Within (k + d) (r.apply s).toList := by
      rw [toList_apply]
      exact h.flatMap hr
    have hdepth : k + d * (n + 1) = k + d + d * n := by rw [Nat.mul_succ]; omega
    rw [hdepth]
    exact ih hpass

end RuleSet

end TurtleTree
