/-
TurtleTree/Panel/Input.lean

What a user does in one frame: sliders moved, keys pressed and buttons clicked.
-/
import TurtleTree.Number.Single

namespace TurtleTree

/-! ### Sliders -/

/-- Values of the sliders that were moved. -/
structure SliderEdits where
  angle : Option Float32
  branchLength : Option Float32
  branchWidth : Option Float32
  leafLength : Option Float32
  leafStartWidth : Option Float32
  leafEndWidth : Option Float32
  angleVariance : Option Int32
deriving BEq, DecidableEq

namespace SliderEdits

/-- No slider was moved. -/
def none : SliderEdits := ⟨.none, .none, .none, .none, .none, .none, .none⟩

instance : Inhabited SliderEdits := ⟨none⟩

def isEmpty (e : SliderEdits) : Bool :=
  e.angle.isNone && e.branchLength.isNone && e.branchWidth.isNone && e.leafLength.isNone
    && e.leafStartWidth.isNone && e.leafEndWidth.isNone && e.angleVariance.isNone

/-- Both edits, the newer one where they meet. -/
def merge (older newer : SliderEdits) : SliderEdits where
  angle := newer.angle.or older.angle
  branchLength := newer.branchLength.or older.branchLength
  branchWidth := newer.branchWidth.or older.branchWidth
  leafLength := newer.leafLength.or older.leafLength
  leafStartWidth := newer.leafStartWidth.or older.leafStartWidth
  leafEndWidth := newer.leafEndWidth.or older.leafEndWidth
  angleVariance := newer.angleVariance.or older.angleVariance

end SliderEdits

/-! ### Requests -/

/-- Everything a user asks for in one frame. -/
structure FrameInput where
  regenerate : Bool
  toggleGrowth : Bool
  toggleRandom : Bool
  toggleLeafColor : Bool
  nextRuleSet : Bool
  previousRuleSet : Bool
  moreIterations : Bool
  fewerIterations : Bool
  sliders : SliderEdits
deriving BEq, DecidableEq

namespace FrameInput

/-- Nothing is asked for. -/
def idle : FrameInput :=
  ⟨false, false, false, false, false, false, false, false, SliderEdits.none⟩

instance : Inhabited FrameInput := ⟨idle⟩

end FrameInput

end TurtleTree
