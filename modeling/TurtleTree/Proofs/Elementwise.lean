/-
TurtleTree/Proofs/Elementwise.lean

Lists that are read element by element.

Several readers read a list by reading each of its elements: the symbols of base64, the
names of fields.  The whole list is read exactly when every element is
(`isSome_mapM_iff`), and what came out of an element stands beside it
(`mapM_eq_some_iff`).  So what has to be said of such a reader is said of a single element.
-/
import Mathlib.Data.List.Forall2

namespace TurtleTree

variable {α β γ : Type} {xs : List α} {ys : List β}

theorem mapM_eq_some_iff {f : α → Option β} :
    xs.mapM f = some ys ↔ List.Forall₂ (fun x y => f x = some y) xs ys := by
  induction xs generalizing ys with
  | nil =>
    rw [List.forall₂_nil_left_iff]
    exact ⟨fun h => (Option.some.inj h).symm, fun h => congrArg some h.symm⟩
  | cons x xs ih =>
    rw [List.mapM_cons, List.forall₂_cons_left_iff]
    constructor
    · intro h
      obtain ⟨y, hy, h⟩ := Option.bind_eq_some_iff.mp h
      obtain ⟨rest, hrest, h⟩ := Option.bind_eq_some_iff.mp h
      exact ⟨y, rest, hy, ih.mp hrest, (Option.some.inj h).symm⟩
    · rintro ⟨y, rest, hy, hrest, rfl⟩
      rw [hy, ih.mpr hrest]
      rfl

theorem isSome_mapM_iff {f : α → Option β} :
    (xs.mapM f).isSome = true ↔ ∀ x ∈ xs, (f x).isSome = true := by
  induction xs with
  | nil => simp
  | cons x xs ih =>
    rw [List.forall_mem_cons, ← ih, List.mapM_cons]
    cases f x <;> cases xs.mapM f <;> simp

/-- Every element on the right has one on the left that it is related to. -/
theorem exists_of_mem_forall₂ {R : α → β → Prop} (h : List.Forall₂ R xs ys) {y : β}
    (hy : y ∈ ys) : ∃ x ∈ xs, R x y := by
  induction h with
  | nil => exact absurd hy List.not_mem_nil
  | cons hxy _ ih =>
    rcases List.mem_cons.mp hy with rfl | hy
    · exact ⟨_, List.mem_cons_self, hxy⟩
    · obtain ⟨x, hx, hr⟩ := ih hy
      exact ⟨x, List.mem_cons_of_mem _ hx, hr⟩

/-- What stands beside each other in the outer two of three lists is related by way of the
middle one. -/
theorem exists_of_mem_zip {R : α → β → Prop} {S : β → γ → Prop} {zs : List γ}
    (hxy : List.Forall₂ R xs ys) (hyz : List.Forall₂ S ys zs) {x : α} {z : γ}
    (hmem : (x, z) ∈ xs.zip zs) : ∃ y, R x y ∧ S y z := by
  induction hxy generalizing zs with
  | nil => exact absurd hmem List.not_mem_nil
  | cons hx _ ih =>
    cases hyz with
    | cons hz hrest =>
      rcases List.mem_cons.mp hmem with heq | hmem
      · obtain ⟨rfl, rfl⟩ := Prod.mk.inj heq
        exact ⟨_, hx, hz⟩
      · exact ih hrest hmem

end TurtleTree
