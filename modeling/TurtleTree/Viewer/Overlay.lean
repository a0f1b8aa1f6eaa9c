/-
TurtleTree/Viewer/Overlay.lean

The panel drawn over the tree: the parameters in words, the rules, a slider for
each measure, and four buttons.

Design.  Drawing a widget and noticing what the user does to it is one step, so
a slider is a function to the widget and the value it was moved to, if it was.
The angle variance has a slider only in random mode.
-/
import TurtleTree.Viewer.Drawing
import TurtleTree.Viewer.Latches

namespace TurtleTree

namespace Overlay

/-! ### Look -/

/-- Colour of the panel behind its widgets. -/
def background : Color := ⟨0.08, 0.09, 0.08, 0.85⟩

def windowStyle : Style := ⟨some (Fill.uniform background), Color.white, ⟨16, 16, 16, 16⟩⟩

def labelStyle : Style := ⟨none, Color.white, ⟨0, 0, 2, 2⟩⟩

def buttonFill : Fill where
  plain := Color.ofBytesAlpha 60 72 60 255
  hovered := Color.ofBytesAlpha 84 100 84 255
  clicked := Color.ofBytesAlpha 48 56 48 255
  selected := Color.ofBytesAlpha 60 72 60 255
  selectedHovered := Color.ofBytesAlpha 84 100 84 255
  inactive := Color.ofBytesAlpha 48 56 48 200

def buttonStyle : Style := ⟨some buttonFill, Color.white, ⟨0, 0, 6, 6⟩⟩

def skin : Skin := ⟨0, windowStyle, labelStyle, buttonStyle⟩

/-- Width of the panel. -/
def width : Float32 := 300

/-! ### Sliders -/

/-- Movement that does not count: the gap between one and the next single. -/
def slack : Float32 := Float32.ofBits 0x34000000

/-- The value a slider was moved to, if it was moved. -/
def movedTo (pointer : Pointer) (id : String) (current : Float32) : Option Float32 :=
  let value := pointer.slideTo id current
  if slack < (value - current).abs then some value else none

/-- A slider on the panel. -/
structure SliderSpec where
  id : String
  label : String
  range : SliderRange
  /-- Value the slider stands at. -/
  value : Parameters → Float32

namespace SliderSpec

def widget (s : SliderSpec) (p : Parameters) : Widget :=
  .slider s.id s.label s.range.low s.range.high (s.value p)

def moved? (s : SliderSpec) (pointer : Pointer) (p : Parameters) : Option Float32 :=
  movedTo pointer s.id (s.value p)

end SliderSpec

def angle : SliderSpec := ⟨"angle", "Angle", SliderRange.angle, Parameters.angle⟩

def branchLength : SliderSpec :=
  ⟨"branch_length", "Branch length", SliderRange.branchLength, Parameters.branchLength⟩

def branchWidth : SliderSpec :=
  ⟨"branch_width", "Branch width", SliderRange.branchWidth, Parameters.branchWidth⟩

def leafLength : SliderSpec :=
  ⟨"leaf_length", "Leaf length", SliderRange.leafLength, Parameters.leafLength⟩

def leafStartWidth : SliderSpec :=
  ⟨"leaf_start_width", "Leaf start", SliderRange.leafWidth, Parameters.leafStartWidth⟩

def leafEndWidth : SliderSpec :=
  ⟨"leaf_end_width", "Leaf end", SliderRange.leafWidth, Parameters.leafEndWidth⟩

def angleVariance : SliderSpec :=
  ⟨"angle_variance", "Variance",
    ⟨Float32.ofInt IntegerRange.angleVariance.low, Float32.ofInt IntegerRange.angleVariance.high⟩,
    Parameters.varianceDegrees⟩

/-- Sliders of a panel, from top to bottom. -/
def sliders (p : Parameters) : List SliderSpec :=
  [angle, branchLength, branchWidth, leafLength, leafStartWidth, leafEndWidth]
    ++ if p.randomMode then [angleVariance] else []

/-- The sliders the user moved.  The variance is rounded to a whole number. -/
def sliderEdits (pointer : Pointer) (p : Parameters) : SliderEdits where
  angle := angle.moved? pointer p
  branchLength := branchLength.moved? pointer p
  branchWidth := branchWidth.moved? pointer p
  leafLength := leafLength.moved? pointer p
  leafStartWidth := leafStartWidth.moved? pointer p
  leafEndWidth := leafEndWidth.moved? pointer p
  angleVariance :=
    if p.randomMode then
      (angleVariance.moved? pointer p).map fun x => Int32.ofInt (Single.toInt32 x)
    else none

/-! ### The whole panel -/

def regenerateButton : String := "Regenerate (R)"

def growthButton : String := "Observe growth (G)"

def randomButton : String := "Random mode (M)"

def leafColorButton : String := "Random leaf colour (L)"

/-- All widgets of the panel. -/
def widgets (v : PanelView) : List Widget :=
  v.lines.map .label ++ [.separator]
    ++ v.ruleLines.map .label ++ [.separator]
    ++ (sliders v.parameters).map (·.widget v.parameters) ++ [.separator]
    ++ [regenerateButton, growthButton, randomButton, leafColorButton].map .button

/-- What the user does while the panel is drawn. -/
def response (pointer : Pointer) (v : PanelView) : PanelResponse where
  regenerate := pointer.clicksOn regenerateButton
  growth := pointer.clicksOn growthButton
  random := pointer.clicksOn randomButton
  leafColor := pointer.clicksOn leafColorButton
  sliders := sliderEdits pointer v.parameters

/-- The calls that draw the panel in a window of a height. -/
def draw (height : Float32) (v : PanelView) : List DrawCall :=
  [.pushSkin skin, .panel "control_panel" 0 0 width height (widgets v), .popSkin]

end Overlay

end TurtleTree
