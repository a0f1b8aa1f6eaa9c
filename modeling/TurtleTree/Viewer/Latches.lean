/-
TurtleTree/Viewer/Latches.lean

Panel input on its way into the next frame.

The panel is drawn at the end of a frame, and what a user does in it is latched
until the next frame gathers its input.  Gathering empties the latches, so each
click and each edit is delivered once.
-/
import TurtleTree.Panel.Input

namespace TurtleTree

/-- What a user did in the panel while it was drawn. -/
structure PanelResponse where
  regenerate : Bool
  growth : Bool
  random : Bool
  leafColor : Bool
  sliders : SliderEdits
deriving BEq, DecidableEq

namespace PanelResponse

/-- Nothing was done. -/
def none : PanelResponse := ⟨false, false, false, false, SliderEdits.none⟩

end PanelResponse

/-- Keys pressed in a frame. -/
structure Shortcuts where
  quit : Bool
  regenerate : Bool
  toggleGrowth : Bool
  toggleRandom : Bool
  toggleLeafColor : Bool
  nextRuleSet : Bool
  previousRuleSet : Bool
  moreIterations : Bool
  fewerIterations : Bool
deriving BEq, DecidableEq

namespace Shortcuts

/-- The shortcuts of a set of keys, given by name. -/
def ofKeys (keys : List String) : Shortcuts where
  quit := keys.contains "Escape" || keys.contains "Q"
  regenerate := keys.contains "R"
  toggleGrowth := keys.contains "G"
  toggleRandom := keys.contains "M"
  toggleLeafColor := keys.contains "L"
  nextRuleSet := keys.contains "Right"
  previousRuleSet := keys.contains "Left"
  moreIterations := keys.contains "Up"
  fewerIterations := keys.contains "Down"

end Shortcuts

/-- Panel input that no frame has gathered yet. -/
structure PanelLatches where
  regenerate : Bool
  growth : Bool
  random : Bool
  leafColor : Bool
  sliders : SliderEdits
deriving BEq, DecidableEq

namespace PanelLatches

/-- Nothing is latched. -/
def empty : PanelLatches := ⟨false, false, false, false, SliderEdits.none⟩

instance : Inhabited PanelLatches := ⟨empty⟩

/-! ### Registering -/

def registerRegenerate (l : PanelLatches) : PanelLatches := { l with regenerate := true }

def registerGrowth (l : PanelLatches) : PanelLatches := { l with growth := true }

def registerRandom (l : PanelLatches) : PanelLatches := { l with random := true }

def registerLeafColor (l : PanelLatches) : PanelLatches := { l with leafColor := true }

/-- Add slider edits; later values replace earlier ones. -/
def registerSliders (edits : SliderEdits) (l : PanelLatches) : PanelLatches :=
  { l with sliders := l.sliders.merge edits }

/-- Add everything a user did. -/
def register (r : PanelResponse) (l : PanelLatches) : PanelLatches where
  regenerate := r.regenerate || l.regenerate
  growth := r.growth || l.growth
  random := r.random || l.random
  leafColor := r.leafColor || l.leafColor
  sliders := if r.sliders.isEmpty then l.sliders else l.sliders.merge r.sliders

/-! ### Taking -/

def takeRegenerate (l : PanelLatches) : Bool × PanelLatches :=
  (l.regenerate, { l with regenerate := false })

def takeGrowth (l : PanelLatches) : Bool × PanelLatches := (l.growth, { l with growth := false })

def takeRandom (l : PanelLatches) : Bool × PanelLatches := (l.random, { l with random := false })

def takeLeafColor (l : PanelLatches) : Bool × PanelLatches :=
  (l.leafColor, { l with leafColor := false })

def takeSliders (l : PanelLatches) : SliderEdits × PanelLatches :=
  (l.sliders, { l with sliders := SliderEdits.none })

/-- The input of a frame: its keys together with everything latched.  The latches
are empty afterwards. -/
def gather (keys : Shortcuts) (l : PanelLatches) : FrameInput × PanelLatches :=
  let (regenerate, l) := l.takeRegenerate
  let (growth, l) := l.takeGrowth
  let (random, l) := l.takeRandom
  let (leafColor, l) := l.takeLeafColor
  let (sliders, l) := l.takeSliders
  ({ regenerate := regenerate || keys.regenerate
     toggleGrowth := growth || keys.toggleGrowth
     toggleRandom := random || keys.toggleRandom
     toggleLeafColor := leafColor || keys.toggleLeafColor
     nextRuleSet := keys.nextRuleSet
     previousRuleSet := keys.previousRuleSet
     moreIterations := keys.moreIterations
     fewerIterations := keys.fewerIterations
     sliders },
    l)

end PanelLatches

end TurtleTree
