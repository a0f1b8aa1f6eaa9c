/-
TurtleTree/Geometry/Vector.lean

Points and directions of space in single precision.

Every operation rounds coordinate by coordinate and in the order written; sums
of three products are added from left to right.
-/
import TurtleTree.Number.Single

namespace TurtleTree

/-- A point or direction of space. -/
structure Vector3 where
  x : Float32
  y : Float32
  z : Float32
deriving BEq, DecidableEq

namespace Vector3

def zero : Vector3 := ⟨0, 0, 0⟩

/-- The direction of world up. -/
def up : Vector3 := ⟨0, 1, 0⟩

instance : Inhabited Vector3 := ⟨zero⟩

def add (v w : Vector3) : Vector3 := ⟨v.x + w.x, v.y + w.y, v.z + w.z⟩

def sub (v w : Vector3) : Vector3 := ⟨v.x - w.x, v.y - w.y, v.z - w.z⟩

/-- Product with a number. -/
def scale (v : Vector3) (s : Float32) : Vector3 := ⟨v.x * s, v.y * s, v.z * s⟩

instance : Add Vector3 := ⟨add⟩
instance : Sub Vector3 := ⟨sub⟩

/-- Inner product. -/
def dot (v w : Vector3) : Float32 := v.x * w.x + v.y * w.y + v.z * w.z

/-- Cross product. -/
def cross (v w : Vector3) : Vector3 :=
  ⟨v.y * w.z - w.y * v.z, v.z * w.x - w.z * v.x, v.x * w.y - w.x * v.y⟩

def length (v : Vector3) : Float32 := (dot v v).sqrt

/-- Coordinatewise smaller values. -/
def min (v w : Vector3) : Vector3 :=
  ⟨Single.min v.x w.x, Single.min v.y w.y, Single.min v.z w.z⟩

/-- Coordinatewise larger values. -/
def max (v w : Vector3) : Vector3 :=
  ⟨Single.max v.x w.x, Single.max v.y w.y, Single.max v.z w.z⟩

end Vector3

end TurtleTree
