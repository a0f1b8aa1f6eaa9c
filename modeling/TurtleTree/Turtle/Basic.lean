/-
TurtleTree/Turtle/Basic.lean

The turtle that draws a symbol string in space.

A turtle has a pose, a stack of saved poses, and the tip: the pose after its
last forward move.  A symbol moves it, turns it, saves or restores its pose, and
may leave a segment or a leaf behind.  A symbol without a meaning does nothing;
a closing bracket without an opening one keeps the pose but may still grow a
leaf.

Design.  `Turtle.step` is a pure function of a turtle, a symbol and a context.
What it does to the turtle (`Turtle.move`) and what it leaves behind
(`Turtle.emission?`) are separate, because the emission switches of the context
only touch the second.
-/
import TurtleTree.Geometry.Shape
import TurtleTree.Parameters
import TurtleTree.Random.Variance

namespace TurtleTree

/-! ### Saved poses -/

/-- Poses saved by opening brackets, the last one on top. -/
structure PoseStack where
  poses : List Pose
deriving BEq, DecidableEq

namespace PoseStack

def empty : PoseStack := ⟨[]⟩

instance : Inhabited PoseStack := ⟨empty⟩

def push (s : PoseStack) (p : Pose) : PoseStack := ⟨p :: s.poses⟩

/-- The pose on top, if any, and the stack without it. -/
def pop (s : PoseStack) : Option Pose × PoseStack := (s.poses.head?, ⟨s.poses.tail⟩)

def depth (s : PoseStack) : Nat := s.poses.length

def isEmpty (s : PoseStack) : Bool := s.poses.isEmpty

end PoseStack

/-! ### Turtles -/

/-- State of the turtle between two symbols. -/
structure Turtle where
  pose : Pose
  stack : PoseStack
  /-- Pose after the last forward move, if there was one. -/
  tip : Option Pose
deriving BEq, DecidableEq

/-- Everything besides the turtle that decides what a symbol does. -/
structure DrawingContext where
  parameters : Parameters
  variance : VarianceTable
  material : Option Material
  emitBranches : Bool
  emitLeaves : Bool
deriving BEq, DecidableEq

namespace DrawingContext

/-- Degrees of a turn with the perturbation of its class. -/
def perturbed (c : DrawingContext) (base : Float32) (slot : VarianceSlot) : Float32 :=
  base + c.parameters.effectiveVariance * c.variance.slot slot

end DrawingContext

namespace Turtle

/-- Degrees of an unperturbed yaw. -/
def yawDegrees : Float32 := 120

/-- A turtle in the pose given that has done nothing yet. -/
def startAt (p : Pose) : Turtle := ⟨p, PoseStack.empty, none⟩

/-- The turtle a tree starts with. -/
def start : Turtle := startAt Pose.origin

instance : Inhabited Turtle := ⟨start⟩

/-- Turn about world up. -/
def yaw (degrees : Float32) : Rotation := Rotation.aboutUp (Rotation.radians degrees)

/-- Turn about the forward axis. -/
def roll (degrees : Float32) : Rotation := Rotation.aboutForward (Rotation.radians degrees)

/-- The turtle in the same place with another orientation. -/
def turned (t : Turtle) (orientation : Rotation) : Turtle :=
  { t with pose := { t.pose with orientation } }

/-- The pose one branch length ahead. -/
def ahead (c : DrawingContext) (t : Turtle) : Pose :=
  { t.pose with
    position := t.pose.position + t.pose.heading.scale c.parameters.branchLength }

/-- What a symbol does to the turtle. -/
def move (c : DrawingContext) (t : Turtle) (symbol : Char) : Turtle :=
  match symbol with
  | 'F' | 'G' => { t with pose := t.ahead c, tip := some (t.ahead c) }
  | '*' => t.turned (yaw (c.perturbed yawDegrees .yaw) * t.pose.orientation)
  | '/' => t.turned (yaw (-c.perturbed yawDegrees .yawInverse) * t.pose.orientation)
  | '+' => t.turned (t.pose.orientation * roll (c.perturbed c.parameters.angle .roll))
  | '-' => t.turned (t.pose.orientation * roll (-c.perturbed c.parameters.angle .rollInverse))
  | '[' => { t with stack := t.stack.push t.pose }
  | ']' => { t with pose := t.stack.pop.1.getD t.pose, stack := t.stack.pop.2 }
  | _ => t

/-- The leaf grown at a tip. -/
def leafAt (c : DrawingContext) (tip : Pose) : Leaf where
  anchor := tip.position
  orientation := tip.orientation
  length := c.parameters.leafLength
  startWidth := c.parameters.leafStartWidth
  endWidth := c.parameters.leafEndWidth
  material := c.material

/-- What a symbol leaves behind: a segment for a forward move, and a leaf at the
tip for a closing bracket.  A kind that is switched off is left out. -/
def emission? (c : DrawingContext) (t : Turtle) (symbol : Char) : Option Emission :=
  match symbol with
  | 'F' | 'G' =>
    if c.emitBranches then
      some (.segment ⟨t.pose.position, (t.ahead c).position, c.parameters.branchWidth⟩)
    else none
  | ']' => if c.emitLeaves then t.tip.map fun tip => .leaf (leafAt c tip) else none
  | _ => none

/-- One symbol: the turtle after it and what it leaves behind. -/
def step (c : DrawingContext) (t : Turtle) (symbol : Char) : Turtle × Option Emission :=
  (t.move c symbol, t.emission? c symbol)

end Turtle

end TurtleTree
