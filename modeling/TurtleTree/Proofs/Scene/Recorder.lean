/-
TurtleTree/Proofs/Scene/Recorder.lean

A scene of any kind with a record of the calls made on it.

The recorder hands every call on to the scene and answers as the scene does, so
nothing that uses a scene can tell the two apart.  It writes down each call with
the handle it was answered by or made with.

The record also tells which emissions are there: those that were taken in since
the scene was last cleared (`SceneCall.standing`).
-/
import TurtleTree.Proofs.Scene.Batch
import TurtleTree.Scene.Log

namespace TurtleTree

/-! ### Calls -/

namespace SceneCall

/-- The handle given out by the call, if it takes something in. -/
def created? : SceneCall → Option EmissionHandle
  | addSegment _ h => some (.segment h)
  | addLeaf _ h => some (.leaf h)
  | setActive _ _ => none
  | clear => none

/-- The call clears the scene. -/
def isClear : SceneCall → Bool
  | clear => true
  | _ => false

/-- The call that hides an emission. -/
def hide (h : EmissionHandle) : SceneCall := setActive h false

/-- The handles of what is there after one call more. -/
def stand (hs : List EmissionHandle) : SceneCall → List EmissionHandle
  | clear => []
  | c => hs ++ c.created?.toList

/-- The handles of what is there after these calls: everything taken in since the scene was
last cleared. -/
def standing (calls : List SceneCall) : List EmissionHandle := calls.foldl stand []

/-- The handles given out by calls. -/
def handles (calls : List SceneCall) : List EmissionHandle := calls.filterMap created?

theorem standing_append (calls more : List SceneCall) :
    standing (calls ++ more) = more.foldl stand (standing calls) := List.foldl_append

@[simp] theorem handles_append (calls more : List SceneCall) :
    handles (calls ++ more) = handles calls ++ handles more := List.filterMap_append

/-- Calls that gave out these handles, one each, are creations. -/
theorem isSome_of_map {creations : List SceneCall} {hs : List EmissionHandle}
    (h : creations.map created? = hs.map some) {c : SceneCall} (hc : c ∈ creations) :
    c.created?.isSome = true := by
  have hmem : c.created? ∈ hs.map some := h ▸ List.mem_map_of_mem hc
  obtain ⟨x, -, hx⟩ := List.mem_map.mp hmem
  rw [← hx]
  rfl

theorem handles_of_map {creations : List SceneCall} {hs : List EmissionHandle}
    (h : creations.map created? = hs.map some) : handles creations = hs := by
  have hid : handles creations = (creations.map created?).filterMap id := by
    rw [List.filterMap_map]
    rfl
  rw [hid, h, List.filterMap_map]
  exact List.filterMap_some

end SceneCall

/-! ### The recorder -/

/-- A scene and the calls made on it, in order. -/
structure Recorded (σ : Type) where
  scene : σ
  calls : List SceneCall

namespace Recorded

variable {σ : Type}

/-- A scene that was not called yet. -/
def begin (s : σ) : Recorded σ := ⟨s, []⟩

variable [Scene σ]

instance : Scene (Recorded σ) where
  addSegment r x :=
    ((Scene.addSegment r.scene x).1,
      ⟨(Scene.addSegment r.scene x).2,
        r.calls ++ [.addSegment x (Scene.addSegment r.scene x).1]⟩)
  addLeaf r x :=
    ((Scene.addLeaf r.scene x).1,
      ⟨(Scene.addLeaf r.scene x).2, r.calls ++ [.addLeaf x (Scene.addLeaf r.scene x).1]⟩)
  setActive r h active := ⟨Scene.setActive r.scene h active, r.calls ++ [.setActive h active]⟩
  clear r := ⟨Scene.clear r.scene, r.calls ++ [.clear]⟩

/-! ### The recorder answers as the scene does -/

@[simp] theorem add_fst (r : Recorded σ) (e : Emission) :
    (Scene.add r e).1 = (Scene.add r.scene e).1 := by
  cases e <;> rfl

@[simp] theorem scene_add (r : Recorded σ) (e : Emission) :
    (Scene.add r e).2.scene = (Scene.add r.scene e).2 := by
  cases e <;> rfl

@[simp] theorem scene_clear (r : Recorded σ) :
    (Scene.clear r).scene = Scene.clear r.scene := rfl

@[simp] theorem scene_hideAll (r : Recorded σ) (hs : List EmissionHandle) :
    (Scene.hideAll r hs).scene = Scene.hideAll r.scene hs := by
  induction hs generalizing r with
  | nil => rfl
  | cons h hs ih => exact ih (Scene.setActive r h false)

/-! ### What is written down -/

/-- Hiding emissions is written down as one call each. -/
theorem calls_hideAll (r : Recorded σ) (hs : List EmissionHandle) :
    (Scene.hideAll r hs).calls = r.calls ++ hs.map SceneCall.hide := by
  induction hs generalizing r with
  | nil => exact (List.append_nil _).symm
  | cons h hs ih =>
    show (Scene.hideAll (Scene.setActive r h false) hs).calls = _
    rw [ih, List.map_cons, List.append_cons]
    rfl

/-- Emissions taken in are written down as one call each, with the handles given out. -/
theorem exists_calls_addAll (r : Recorded σ) (es : List Emission) :
    ∃ creations : List SceneCall, (Scene.addAll r es).2.calls = r.calls ++ creations ∧
      creations.map SceneCall.created? = (Scene.addAll r es).1.map some := by
  induction es generalizing r with
  | nil => exact ⟨[], (List.append_nil _).symm, rfl⟩
  | cons e es ih =>
    obtain ⟨creations, hcalls, hcreated⟩ := ih (Scene.add r e).2
    obtain ⟨c, hc, hhandle⟩ : ∃ c : SceneCall, (Scene.add r e).2.calls = r.calls ++ [c] ∧
        c.created? = some (Scene.add r e).1 := by
      cases e with
      | segment x => exact ⟨_, rfl, rfl⟩
      | leaf l => exact ⟨_, rfl, rfl⟩
    refine ⟨c :: creations, ?_, ?_⟩
    · show (Scene.addAll (Scene.add r e).2 es).2.calls = _
      rw [hcalls, hc, ← List.append_cons]
    · show c.created? :: creations.map SceneCall.created? = _
      rw [hhandle, hcreated]
      rfl

end Recorded

end TurtleTree
