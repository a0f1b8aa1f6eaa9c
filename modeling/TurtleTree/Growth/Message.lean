/-
TurtleTree/Growth/Message.lean

What a host tells a grower, and what the grower reports back.
-/
import TurtleTree.Duration
import TurtleTree.Parameters
import TurtleTree.Scene.Basic

namespace TurtleTree

/-- What a host asks of a grower. -/
inductive Command where
  /-- Discard the tree and grow a new one from the live parameters. -/
  | regenerate
  /-- Switch between instant and stepwise growth, and regenerate. -/
  | toggleGrowth
  /-- Switch random mode on or off, and regenerate. -/
  | toggleRandom
  /-- Replace the live parameters.  The next poll finds the change. -/
  | update (parameters : Parameters)
  /-- Time has passed. -/
  | tick (elapsed : Duration)
deriving BEq, DecidableEq

/-- What a grower reports. -/
inductive Event where
  /-- A poll found edited parameters. -/
  | parametersChanged
  /-- A run was stopped before its end, after this many emissions. -/
  | runCancelled (discarded : Nat)
  /-- A new run began. -/
  | regenerationStarted (ruleSet : RuleSetId) (iterations : UInt32) (mode : GrowthMode)
  /-- The pass of this number was made, with a string of this many bytes. -/
  | grammarExpanded (pass : UInt32) (bytes : Nat)
  /-- The scene took a segment in. -/
  | segmentEmitted (handle : SegmentHandle)
  /-- The scene took a leaf in. -/
  | leafEmitted (handle : LeafHandle)
  /-- Every symbol was interpreted. -/
  | generationCompleted (segments leaves : Nat)
deriving BEq, DecidableEq

namespace Event

/-- The report of an emission that the scene has named. -/
def emitted : EmissionHandle → Event
  | .segment h => .segmentEmitted h
  | .leaf h => .leafEmitted h

end Event

/-- Observable progress of a grower. -/
inductive Phase where
  /-- There is no run, and the last one did not reach its end. -/
  | idle
  /-- Passes are being made. -/
  | expanding (completed iterations : UInt32)
  /-- Symbols are being interpreted. -/
  | interpreting (interpreted total : Nat)
  /-- Every symbol was interpreted. -/
  | complete
deriving BEq, DecidableEq, Repr

end TurtleTree
