/-
TurtleTree/Parameters.lean

The twelve values that shape a tree, and the test that tells whether an edit of
them calls for a new tree.
-/
import TurtleTree.Number.Single

namespace TurtleTree

/-- Number under which a rule set is catalogued. -/
structure RuleSetId where
  number : UInt32
deriving BEq, DecidableEq, Repr

namespace RuleSetId

/-- Lowest number in the catalogue. -/
def first : RuleSetId := ⟨1⟩

/-- Highest number in the catalogue. -/
def last : RuleSetId := ⟨9⟩

end RuleSetId

/-- Pacing of a generation run. -/
inductive GrowthMode where
  /-- The whole run happens at once. -/
  | instant
  /-- Each tick applies the rules once or interprets one symbol. -/
  | stepwise
deriving BEq, DecidableEq, Repr

/-- Everything a user can set about a tree. -/
structure Parameters where
  /-- Rule set from the catalogue. -/
  ruleSet : RuleSetId
  /-- Number of passes of the rules. -/
  iterations : UInt32
  /-- Branching angle in degrees. -/
  angle : Float32
  /-- Distance travelled per forward symbol. -/
  branchLength : Float32
  /-- Width of segments. -/
  branchWidth : Float32
  /-- Length of leaves. -/
  leafLength : Float32
  /-- Width of a leaf at its anchor. -/
  leafStartWidth : Float32
  /-- Width of a leaf at its tip. -/
  leafEndWidth : Float32
  /-- Whether rotations are perturbed. -/
  randomMode : Bool
  /-- Size of the perturbation in degrees. -/
  angleVariance : Int32
  /-- Whether each run draws a leaf colour. -/
  randomLeafColor : Bool
  /-- Whether growth is paced across ticks. -/
  growthObserved : Bool
deriving BEq, DecidableEq

namespace Parameters

/-- The values a tree has when nothing is set. -/
def standard : Parameters where
  ruleSet := RuleSetId.first
  iterations := 5
  angle := 25
  branchLength := 3
  branchWidth := 1
  leafLength := 1
  leafStartWidth := 3
  leafEndWidth := 2
  randomMode := false
  angleVariance := 10
  randomLeafColor := false
  growthObserved := false

instance : Inhabited Parameters := ⟨standard⟩

/-- The numbers that are measures: an angle, lengths and widths. -/
def measures (p : Parameters) : List Float32 :=
  [p.angle, p.branchLength, p.branchWidth, p.leafLength, p.leafStartWidth, p.leafEndWidth]

/-- Largest number of passes that may be asked for.  The catalogued rule sets
grow up to eightfold per pass. -/
def maxIterations : UInt32 := 7

/-- Drift of a measure that does not yet count as an edit. -/
def tolerance : Float32 := 0.01

/-- Two measures lie further apart than the tolerance. -/
def drifted (a b : Float32) : Bool := tolerance < (a - b).abs

/-- The edit from `q` to `p` calls for a new tree. -/
def differsFrom (p q : Parameters) : Bool :=
  p.ruleSet != q.ruleSet
    || p.iterations != q.iterations
    || drifted p.angle q.angle
    || drifted p.branchLength q.branchLength
    || drifted p.branchWidth q.branchWidth
    || drifted p.leafLength q.leafLength
    || drifted p.leafStartWidth q.leafStartWidth
    || drifted p.leafEndWidth q.leafEndWidth
    || p.growthObserved != q.growthObserved
    || p.randomMode != q.randomMode
    || p.angleVariance != q.angleVariance
    || p.randomLeafColor != q.randomLeafColor

/-- Pacing asked for. -/
def growthMode (p : Parameters) : GrowthMode :=
  if p.growthObserved then .stepwise else .instant

/-- The angle variance as a number of degrees. -/
def varianceDegrees (p : Parameters) : Float32 := Float32.ofInt p.angleVariance.toInt

/-- Size of the perturbation in degrees, zero outside random mode. -/
def effectiveVariance (p : Parameters) : Float32 :=
  if p.randomMode then p.varianceDegrees else 0

end Parameters

end TurtleTree
