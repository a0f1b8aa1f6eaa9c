/-
TurtleTree/Geometry/Rotation.lean

Rotations of space as quaternions in single precision.

A rotation is never normalised: a long chain of turns keeps the rounding of
each product.  This module is the only one of the library that uses sine and
cosine.
-/
import TurtleTree.Geometry.Vector

namespace TurtleTree

/-- The quaternion `x i + y j + z k + w`. -/
structure Rotation where
  x : Float32
  y : Float32
  z : Float32
  w : Float32
deriving BEq, DecidableEq

namespace Rotation

def identity : Rotation := ⟨0, 0, 0, 1⟩

instance : Inhabited Rotation := ⟨identity⟩

/-- Sine, in radians. -/
def sine (radians : Float32) : Float32 := radians.sin

/-- Cosine, in radians. -/
def cosine (radians : Float32) : Float32 := radians.cos

/-- Half a turn divided by 180. -/
def radiansPerDegree : Float32 := Float32.ofBits 0x3c8efa35

/-- Degrees to radians, by one multiplication. -/
def radians (degrees : Float32) : Float32 := degrees * radiansPerDegree

/-- Turn about world up by an angle in radians. -/
def aboutUp (angle : Float32) : Rotation :=
  let half := angle * 0.5
  ⟨0, sine half, 0, cosine half⟩

/-- Turn about the third axis by an angle in radians. -/
def aboutForward (angle : Float32) : Rotation :=
  let half := angle * 0.5
  ⟨0, 0, sine half, cosine half⟩

/-- The rotation `b` followed by `a`.  The four products of a component are added
in two pairs, the terms with a minus sign as negated products. -/
def mul (a b : Rotation) : Rotation where
  x := (a.w * b.x + a.x * b.w) + (a.y * b.z + -(a.z * b.y))
  y := (a.w * b.y + -(a.x * b.z)) + (a.y * b.w + a.z * b.x)
  z := (a.w * b.z + a.x * b.y) + (-(a.y * b.x) + a.z * b.w)
  w := (a.w * b.w + -(a.x * b.x)) + (-(a.y * b.y) + -(a.z * b.z))

instance : Mul Rotation := ⟨mul⟩

/-- The axis part. -/
def axis (q : Rotation) : Vector3 := ⟨q.x, q.y, q.z⟩

/-- The image of a vector under a rotation. -/
def rotate (q : Rotation) (v : Vector3) : Vector3 :=
  let b := q.axis
  (v.scale (q.w * q.w - b.dot b) + b.scale (v.dot b * 2)) + (b.cross v).scale (q.w * 2)

end Rotation

end TurtleTree
