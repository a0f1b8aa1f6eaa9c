/-
TurtleTree/Viewer/Session.lean

A grower and its panel at the window.

In each frame the panel turns the input into commands, time passes as the last
of them, the grower carries all of them out, and the panel takes over the
parameters the grower then has.
-/
import TurtleTree.Growth.Grower
import TurtleTree.Scene.Store
import TurtleTree.Viewer.Window

namespace TurtleTree

/-- A grower with a scene in memory, and the parameters its panel shows. -/
structure GrowthSession where
  grower : Grower SceneStore
  panel : Parameters

namespace GrowthSession

/-- A session whose panel shows the parameters of the grower. -/
def ofGrower (g : Grower SceneStore) : GrowthSession := ⟨g, g.parameters⟩

/-- The commands of a frame. -/
def commands (s : GrowthSession) (elapsed : Duration) (input : FrameInput) : List Command :=
  (Panel.handle input s.panel).2 ++ [.tick elapsed]

/-- The session after a frame, and the events of the frame. -/
def frame (s : GrowthSession) (elapsed : Duration) (input : FrameInput) :
    Array Event × GrowthSession :=
  let commands := s.commands elapsed input
  let (events, grower) := (s.grower.applyAll commands).takeEvents
  (events, ⟨grower, grower.parameters⟩)

/-- A picture with the geometry that the scene shows. -/
def shownIn (s : GrowthSession) (p : Picture) : Picture :=
  match s.grower.scene with
  | some store => p.withGeometry store.activeSegments store.activeLeaves
  | none => p

/-- The session as host of a window: it shows its tree and its panel, and notes
the events of each frame. -/
def host : Host GrowthSession (Array Event) where
  update elapsed input s p :=
    let (events, s) := s.frame elapsed input
    (s, { s.shownIn p with panel := some (Panel.view s.panel) }, events)

end GrowthSession

end TurtleTree
