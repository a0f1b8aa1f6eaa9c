/-
TurtleTree/Viewer/Drawing.lean

Drawing as data: a frame of the viewer is a list of drawing calls, and the panel
is a list of widgets.
-/
import TurtleTree.Viewer.Picture

namespace TurtleTree

/-! ### The look of the panel -/

/-- Margins on four sides. -/
structure Margin where
  left : Float32
  right : Float32
  top : Float32
  bottom : Float32
deriving BEq, DecidableEq

/-- Colours of a surface in the states it can be in. -/
structure Fill where
  plain : Color
  hovered : Color
  clicked : Color
  selected : Color
  selectedHovered : Color
  inactive : Color
deriving BEq, DecidableEq

namespace Fill

/-- One colour in all states. -/
def uniform (c : Color) : Fill := ⟨c, c, c, c, c, c⟩

end Fill

/-- The look of a kind of widget.  Text has one colour in all states. -/
structure Style where
  fill : Option Fill
  text : Color
  margin : Margin
deriving BEq, DecidableEq

/-- The look of the panel and its widgets. -/
structure Skin where
  margin : Float32
  window : Style
  label : Style
  button : Style
deriving BEq, DecidableEq

/-! ### Widgets -/

/-- A widget of the panel. -/
inductive Widget where
  | label (text : String)
  | separator
  /-- A slider with the value it stands at. -/
  | slider (id label : String) (low high value : Float32)
  | button (label : String)
deriving BEq, DecidableEq

/-- The user's hand while the panel is drawn: buttons it clicks, by label, and
sliders it moves, by identifier. -/
structure Pointer where
  clicks : List String
  slides : List (String × Float32)

namespace Pointer

/-- Does the hand click a button? -/
def clicksOn (p : Pointer) (label : String) : Bool := p.clicks.contains label

/-- The value a slider has after the hand passed over it. -/
def slideTo (p : Pointer) (id : String) (value : Float32) : Float32 :=
  (p.slides.lookup id).getD value

end Pointer

/-! ### Drawing calls -/

/-- One call of a frame. -/
inductive DrawCall where
  /-- Fill the window. -/
  | clear (c : Color)
  /-- Look from a point to a point, with a direction that is up. -/
  | camera (eye target up : Vector3)
  /-- A line in space. -/
  | line (start finish : Vector3) (c : Color)
  /-- Draw in window coordinates from here on. -/
  | defaultCamera
  | pushSkin (s : Skin)
  /-- A panel at a place, with its widgets. -/
  | panel (id : String) (x y width height : Float32) (widgets : List Widget)
  | popSkin
deriving BEq, DecidableEq

namespace DrawCall

/-- Lines of a picture: branches first, then leaves from anchor to tip. -/
def lines (p : Picture) : List DrawCall :=
  p.segments.map (fun s => .line s.start s.finish p.branchColor)
    ++ p.leaves.map (fun l => .line l.anchor l.tip (p.colorOf l))

end DrawCall

end TurtleTree
