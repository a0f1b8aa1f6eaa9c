/-
TurtleTree/Viewer/Picture.lean

What the viewer draws in a frame: segments and leaves with their colours, the
box that encloses them, and the panel.
-/
import TurtleTree.Geometry.Shape
import TurtleTree.Panel.Basic

namespace TurtleTree

/-! ### Colours -/

/-- Red, green, blue and opacity. -/
structure Color where
  red : Float32
  green : Float32
  blue : Float32
  alpha : Float32
deriving BEq, DecidableEq

namespace Color

/-- A byte as an intensity between zero and one. -/
def intensity (byte : UInt8) : Float32 := Float32.ofNat byte.toNat / 255

/-- The opaque colour of three bytes. -/
def ofBytes (red green blue : UInt8) : Color := ⟨intensity red, intensity green, intensity blue, 1⟩

/-- The colour of four bytes. -/
def ofBytesAlpha (red green blue alpha : UInt8) : Color :=
  ⟨intensity red, intensity green, intensity blue, intensity alpha⟩

def white : Color := ⟨1, 1, 1, 1⟩

/-- Bark. -/
def branch : Color := ofBytes 110 78 48

/-- Leaves without a material. -/
def leaf : Color := ofBytes 72 160 64

/-- Leaf colours to draw from when no others are configured. -/
def leafPalette : List Color :=
  [ofBytes 72 160 64, ofBytes 150 190 60, ofBytes 224 176 48, ofBytes 214 96 40, ofBytes 170 40 52]

end Color

/-! ### Bounds -/

/-- Box with sides along the axes. -/
structure Bounds where
  low : Vector3
  high : Vector3
deriving BEq, DecidableEq

namespace Bounds

/-- The box around a single point. -/
def around (p : Vector3) : Bounds := ⟨p, p⟩

/-- The least box that also holds a point. -/
def cover (b : Bounds) (p : Vector3) : Bounds := ⟨b.low.min p, b.high.max p⟩

/-- The least box around a list of points, if there is one. -/
def ofPoints? : List Vector3 → Option Bounds
  | [] => none
  | p :: ps => some (ps.foldl cover (around p))

def center (b : Bounds) : Vector3 := (b.low + b.high).scale 0.5

/-- Radius of the sphere through the corners. -/
def radius (b : Bounds) : Float32 := (b.high - b.low).length * 0.5

end Bounds

/-! ### Pictures -/

/-- Everything drawn in a frame. -/
structure Picture where
  segments : List Segment
  leaves : List Leaf
  branchColor : Color
  /-- Colour of leaves without a material. -/
  leafColor : Color
  /-- Colours of the materials. -/
  leafPalette : List Color
  panel : Option PanelView
deriving BEq, DecidableEq

namespace Picture

/-- A picture without geometry. -/
def blank (branchColor leafColor : Color) (leafPalette : List Color) : Picture :=
  ⟨[], [], branchColor, leafColor, leafPalette, none⟩

/-- The blank picture in the usual colours. -/
def standard : Picture := blank Color.branch Color.leaf Color.leafPalette

instance : Inhabited Picture := ⟨standard⟩

/-- The picture with other geometry. -/
def withGeometry (p : Picture) (segments : List Segment) (leaves : List Leaf) : Picture :=
  { p with segments, leaves }

/-- The colour of a leaf: that of its material, or the colour of leaves without
one, also for a material that is not in the palette. -/
def colorOf (p : Picture) (l : Leaf) : Color :=
  (l.material.bind fun m => p.leafPalette[m.index.toNat]?).getD p.leafColor

/-- All points of the geometry: ends of segments, then anchors and tips of leaves. -/
def points (p : Picture) : List Vector3 :=
  p.segments.flatMap (fun s => [s.start, s.finish])
    ++ p.leaves.flatMap (fun l => [l.anchor, l.tip])

/-- The least box around the geometry, if there is any. -/
def bounds? (p : Picture) : Option Bounds := Bounds.ofPoints? p.points

end Picture

end TurtleTree
