/-
TurtleTree/Scene/Log.lean

A scene that keeps no emission, only the calls that were made on it.

Segments and leaves are numbered apart, both from one on.
-/
import TurtleTree.Scene.Basic

namespace TurtleTree

/-- A call on a scene, with the handle it was answered by or that it was made with. -/
inductive SceneCall where
  | addSegment (s : Segment) (h : SegmentHandle)
  | addLeaf (l : Leaf) (h : LeafHandle)
  | setActive (h : EmissionHandle) (active : Bool)
  | clear
deriving BEq, DecidableEq

/-- The calls made on a scene. -/
structure SceneLog where
  /-- Segments added so far. -/
  segments : Nat
  /-- Leaves added so far. -/
  leaves : Nat
  calls : Array SceneCall
deriving DecidableEq

namespace SceneLog

def empty : SceneLog := ⟨0, 0, #[]⟩

instance : Inhabited SceneLog := ⟨empty⟩

/-- Handle of the next segment. -/
def nextSegment (s : SceneLog) : SegmentHandle := ⟨UInt64.ofNat (s.segments + 1)⟩

/-- Handle of the next leaf. -/
def nextLeaf (s : SceneLog) : LeafHandle := ⟨UInt64.ofNat (s.leaves + 1)⟩

instance : Scene SceneLog where
  addSegment s x :=
    (s.nextSegment,
      { s with segments := s.segments + 1, calls := s.calls.push (.addSegment x s.nextSegment) })
  addLeaf s x :=
    (s.nextLeaf,
      { s with leaves := s.leaves + 1, calls := s.calls.push (.addLeaf x s.nextLeaf) })
  setActive s h active := { s with calls := s.calls.push (.setActive h active) }
  clear s := { s with calls := s.calls.push .clear }

/-- The calls so far and the log without them. -/
def takeCalls (s : SceneLog) : Array SceneCall × SceneLog := (s.calls, { s with calls := #[] })

end SceneLog

end TurtleTree
