/-
TurtleTree/Panel/Range.lean

Ranges of the sliders, and the values they let through.
-/
import TurtleTree.Parameters

namespace TurtleTree

/-- Closed interval a continuous slider can be set to. -/
structure SliderRange where
  low : Float32
  high : Float32
deriving BEq, DecidableEq

namespace SliderRange

/-- The bounds are numbers in order. -/
def isOrdered (r : SliderRange) : Bool := r.low ≤ r.high

/-- The value of the range nearest to the one given. -/
def clamp (r : SliderRange) (x : Float32) : Float32 := Single.clamp r.low r.high x

/-- Clamping into bounds that may be out of order: then there is no answer. -/
def clamp? (r : SliderRange) (x : Float32) : Option Float32 :=
  if r.isOrdered then some (r.clamp x) else none

/-- Branching angle in degrees. -/
def angle : SliderRange := ⟨0, 90⟩

/-- Distance travelled per forward symbol. -/
def branchLength : SliderRange := ⟨0, 15⟩

/-- Width of segments. -/
def branchWidth : SliderRange := ⟨0, 3⟩

/-- Length of leaves. -/
def leafLength : SliderRange := ⟨0, 15⟩

/-- Width of leaves at both ends. -/
def leafWidth : SliderRange := ⟨0, 10⟩

end SliderRange

/-- Closed interval of whole numbers. -/
structure IntegerRange where
  low : Int
  high : Int
deriving DecidableEq, Repr

namespace IntegerRange

/-- The number of the range nearest to the one given. -/
def clamp (r : IntegerRange) (n : Int) : Int := Max.max r.low (Min.min r.high n)

/-- Passes that the panel lets a user choose. -/
def iterations : IntegerRange := ⟨1, Parameters.maxIterations.toNat⟩

/-- Degrees of angle variance. -/
def angleVariance : IntegerRange := ⟨1, 100⟩

end IntegerRange

end TurtleTree
