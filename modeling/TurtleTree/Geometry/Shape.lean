/-
TurtleTree/Geometry/Shape.lean

What a tree is made of: poses of the turtle, branch segments and leaves.
-/
import TurtleTree.Geometry.Rotation

namespace TurtleTree

/-! ### Poses -/

/-- Position and orientation of the turtle. -/
structure Pose where
  position : Vector3
  orientation : Rotation
deriving BEq, DecidableEq

namespace Pose

/-- The pose a tree starts from. -/
def origin : Pose := ⟨Vector3.zero, Rotation.identity⟩

instance : Inhabited Pose := ⟨origin⟩

/-- Direction the turtle travels in when it moves forward. -/
def heading (p : Pose) : Vector3 := p.orientation.rotate Vector3.up

end Pose

/-! ### Branches and leaves -/

/-- Straight branch element between two positions. -/
structure Segment where
  start : Vector3
  finish : Vector3
  width : Float32
deriving BEq, DecidableEq

namespace Segment

/-- Distance between the two ends. -/
def length (s : Segment) : Float32 := (s.start - s.finish).length

end Segment

/-- Number of a colour in a palette of leaf colours. -/
structure Material where
  index : UInt32
deriving BEq, DecidableEq, Repr

/-- Leaf that grows from the tip of a branch.  Without a material it has the
default colour of the picture. -/
structure Leaf where
  anchor : Vector3
  orientation : Rotation
  length : Float32
  startWidth : Float32
  endWidth : Float32
  material : Option Material
deriving BEq, DecidableEq

namespace Leaf

/-- Far end of the leaf: `length` units along the heading of its branch tip. -/
def tip (l : Leaf) : Vector3 :=
  l.anchor + (l.orientation.rotate Vector3.up).scale l.length

end Leaf

/-- Geometry drawn for a single symbol. -/
inductive Emission where
  | segment (s : Segment)
  | leaf (l : Leaf)
deriving BEq, DecidableEq

end TurtleTree
