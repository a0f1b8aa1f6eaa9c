/-
TurtleTree/Viewer/Camera.lean

A camera that circles the tree at a fixed angular speed and stands far enough
back to see all of it.
-/
import TurtleTree.Duration
import TurtleTree.Viewer.Picture

namespace TurtleTree

/-- A camera on its orbit. -/
structure OrbitCamera where
  /-- Angle around world up, in radians. -/
  azimuth : Float32
  radiansPerSecond : Float32
deriving BEq, DecidableEq

namespace OrbitCamera

/-- A full turn. -/
def fullTurn : Float32 := Float32.ofBits 0x40c90fdb

/-- Distance that the camera never comes nearer than. -/
def leastDistance : Float32 := 10

/-- Angle of the camera above the ground, in radians. -/
def elevation : Float32 := 0.35

/-- A camera at the start of its orbit. -/
def ofSpeed (radiansPerSecond : Float32) : OrbitCamera := ⟨0, radiansPerSecond⟩

/-- The camera some time later. -/
def advance (c : OrbitCamera) (elapsed : Duration) : OrbitCamera :=
  { c with
    azimuth :=
      Single.remainderNonneg (c.azimuth + c.radiansPerSecond * elapsed.toSingle) fullTurn }

/-- Where a camera stands and where it looks. -/
structure Aim where
  eye : Vector3
  target : Vector3
deriving BEq, DecidableEq

/-- The aim that frames a box; without a box, the origin. -/
def aim (c : OrbitCamera) (bounds : Option Bounds) : Aim :=
  let target := (bounds.map Bounds.center).getD Vector3.zero
  let radius := (bounds.map Bounds.radius).getD 0
  let distance := Single.max (radius * 2.5) leastDistance
  let horizontal := distance * Rotation.cosine elevation
  ⟨target +
      ⟨horizontal * Rotation.cosine c.azimuth, distance * Rotation.sine elevation,
        horizontal * Rotation.sine c.azimuth⟩,
    target⟩

end OrbitCamera

end TurtleTree
