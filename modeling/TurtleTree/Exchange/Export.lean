/-
TurtleTree/Exchange/Export.lean

A grown tree as a JSON file: its parameters, the number of its symbols, and the
segments and leaves that its scene shows.
-/
import TurtleTree.Exchange.Records
import TurtleTree.Scene.Store

namespace TurtleTree

/-- What is kept of a grown tree. -/
structure TreeExport where
  parameters : Parameters
  /-- Number of symbols the tree was drawn from. -/
  symbols : Nat
  segments : List Segment
  leaves : List Leaf
deriving DecidableEq

namespace TreeExport

/-- The tree that a scene shows. -/
def capture (parameters : Parameters) (symbols : Nat) (scene : SceneStore) : TreeExport :=
  ⟨parameters, symbols, scene.activeSegments, scene.activeLeaves⟩

def toJson (t : TreeExport) : Json :=
  Json.record [("parameters", t.parameters.toJson), ("symbols", Json.ofNat t.symbols),
    ("segments", .array (t.segments.map Segment.toJson)),
    ("leaves", .array (t.leaves.map Leaf.toJson))]

/-- The contents of the file, without a line end behind the last line. -/
def text (t : TreeExport) : String := String.ofList t.toJson.spacious

end TreeExport

end TurtleTree
