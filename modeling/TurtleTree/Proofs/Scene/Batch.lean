/-
TurtleTree/Proofs/Scene/Batch.lean

Several calls on a scene, one after the other.

Emissions that are taken in one by one get one name each, in order and of their
own kind.  Where a scene may be missing, nothing is taken in and there are no
names.
-/
import TurtleTree.Scene.Basic

namespace TurtleTree

/-! ### Kinds -/

namespace Emission

/-- The segment, if the emission is one. -/
def segment? : Emission → Option Segment
  | segment s => some s
  | leaf _ => none

/-- The leaf, if the emission is one. -/
def leaf? : Emission → Option Leaf
  | segment _ => none
  | leaf l => some l

def isSegment : Emission → Bool
  | segment _ => true
  | leaf _ => false

def isLeaf : Emission → Bool
  | segment _ => false
  | leaf _ => true

end Emission

namespace EmissionHandle

def isSegment : EmissionHandle → Bool
  | segment _ => true
  | leaf _ => false

def isLeaf : EmissionHandle → Bool
  | segment _ => false
  | leaf _ => true

end EmissionHandle

namespace Scene

variable {σ : Type} [Scene σ]

/-- The name of an emission is of its kind. -/
@[simp] theorem isSegment_add (s : σ) (e : Emission) : (add s e).1.isSegment = e.isSegment := by
  cases e <;> rfl

@[simp] theorem isLeaf_add (s : σ) (e : Emission) : (add s e).1.isLeaf = e.isLeaf := by
  cases e <;> rfl

/-! ### Taking several emissions in -/

/-- Take emissions in, one after the other, and name them. -/
def addAll (s : σ) : List Emission → List EmissionHandle × σ
  | [] => ([], s)
  | e :: es => ((add s e).1 :: (addAll (add s e).2 es).1, (addAll (add s e).2 es).2)

@[simp] theorem addAll_nil (s : σ) : addAll s [] = ([], s) := rfl

theorem addAll_append (s : σ) (es fs : List Emission) :
    addAll s (es ++ fs)
      = ((addAll s es).1 ++ (addAll (addAll s es).2 fs).1, (addAll (addAll s es).2 fs).2) := by
  induction es generalizing s with
  | nil => rfl
  | cons e es ih => simp only [List.cons_append, addAll, ih]

/-- There are as many names of a kind as there are emissions of it. -/
theorem countP_isSegment_addAll (s : σ) (es : List Emission) :
    (addAll s es).1.countP EmissionHandle.isSegment = es.countP Emission.isSegment := by
  induction es generalizing s with
  | nil => rfl
  | cons e es ih => simp only [addAll, List.countP_cons, isSegment_add, ih]

theorem countP_isLeaf_addAll (s : σ) (es : List Emission) :
    (addAll s es).1.countP EmissionHandle.isLeaf = es.countP Emission.isLeaf := by
  induction es generalizing s with
  | nil => rfl
  | cons e es ih => simp only [addAll, List.countP_cons, isLeaf_add, ih]

/-! ### A scene that may be missing -/

/-- The names that emissions get, if there is a scene. -/
def names? (scene : Option σ) (es : List Emission) : List EmissionHandle :=
  match scene with
  | none => []
  | some s => (addAll s es).1

/-- The scene with emissions taken in, if there is one. -/
def with? (scene : Option σ) (es : List Emission) : Option σ :=
  scene.map fun s => (addAll s es).2

@[simp] theorem names?_nil (scene : Option σ) : names? scene [] = [] := by
  cases scene <;> rfl

@[simp] theorem with?_nil (scene : Option σ) : with? scene [] = scene := by
  cases scene <;> rfl

theorem names?_append (scene : Option σ) (es fs : List Emission) :
    names? scene (es ++ fs) = names? scene es ++ names? (with? scene es) fs := by
  rcases scene with - | s
  · rfl
  · exact congrArg Prod.fst (addAll_append s es fs)

theorem with?_append (scene : Option σ) (es fs : List Emission) :
    with? scene (es ++ fs) = with? (with? scene es) fs := by
  rcases scene with - | s
  · rfl
  · exact congrArg (fun r => some r.2) (addAll_append s es fs)

/-! ### Hiding several emissions -/

/-- Hide emissions, one after the other. -/
def hideAll (s : σ) (hs : List EmissionHandle) : σ := hs.foldl (fun s h => setActive s h false) s

end Scene

end TurtleTree
