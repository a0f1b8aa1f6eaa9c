/-
TurtleTree/Scene/Basic.lean

What a tree is grown into: a scene takes segments and leaves, answers with a
handle for each, can hide an emission again, and can be cleared.

Design.  `Scene` is a class of operations on a state `σ`, so growth can be
studied over any scene whatever, also one that gives out handles of its own
choice.
-/
import TurtleTree.Geometry.Shape

namespace TurtleTree

/-- Name of a segment in a scene. -/
structure SegmentHandle where
  number : UInt64
deriving BEq, DecidableEq, Repr

/-- Name of a leaf in a scene. -/
structure LeafHandle where
  number : UInt64
deriving BEq, DecidableEq, Repr

/-- Name of any emission in a scene. -/
inductive EmissionHandle where
  | segment (h : SegmentHandle)
  | leaf (h : LeafHandle)
deriving BEq, DecidableEq, Repr

/-- The operations of a scene with states in `σ`. -/
class Scene (σ : Type) where
  /-- Take a segment in and name it. -/
  addSegment : σ → Segment → SegmentHandle × σ
  /-- Take a leaf in and name it. -/
  addLeaf : σ → Leaf → LeafHandle × σ
  /-- Show or hide an emission.  A name of nothing is ignored. -/
  setActive : σ → EmissionHandle → Bool → σ
  /-- Release every emission. -/
  clear : σ → σ

namespace Scene

variable {σ : Type} [Scene σ]

/-- Take an emission in and name it. -/
def add (s : σ) : Emission → EmissionHandle × σ
  | .segment segment =>
    let (h, s) := addSegment s segment
    (.segment h, s)
  | .leaf leaf =>
    let (h, s) := addLeaf s leaf
    (.leaf h, s)

end Scene

end TurtleTree
