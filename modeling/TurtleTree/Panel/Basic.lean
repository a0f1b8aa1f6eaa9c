/-
TurtleTree/Panel/Basic.lean

The parameter panel: it keeps a copy of the parameters, moves edits into the
slider ranges, and turns the input of a frame into commands.

Design.  An operation of the panel maps parameters to parameters.  `Panel.edited`
makes all edits of a frame in a fixed order, and `Panel.handle` publishes the
result, if it differs, ahead of the toggles, so that a toggle acts on the edited
values.
-/
import TurtleTree.Grammar.RuleSet
import TurtleTree.Growth.Message
import TurtleTree.Number.Decimal
import TurtleTree.Panel.Input
import TurtleTree.Panel.Range

namespace TurtleTree

/-- What the panel shows for a set of parameters. -/
structure PanelView where
  /-- One line per parameter. -/
  lines : List String
  /-- Description of the rule set, line by line. -/
  ruleLines : List String
  /-- Values the sliders stand at. -/
  parameters : Parameters
deriving BEq, DecidableEq

namespace Panel

/-! ### Single edits -/

/-- Select the next rule set, up to the last one catalogued. -/
def nextRuleSet (p : Parameters) : Parameters :=
  if p.ruleSet.number < RuleSetId.last.number then
    { p with ruleSet := ⟨p.ruleSet.number + 1⟩ }
  else p

/-- Select the previous rule set, down to the first one catalogued. -/
def previousRuleSet (p : Parameters) : Parameters :=
  if RuleSetId.first.number < p.ruleSet.number then
    { p with ruleSet := ⟨p.ruleSet.number - 1⟩ }
  else p

/-- Set the number of passes. -/
def setIterations (n : Nat) (p : Parameters) : Parameters :=
  { p with iterations := UInt32.ofNat (IntegerRange.iterations.clamp n).toNat }

/-- One pass more. -/
def moreIterations (p : Parameters) : Parameters := setIterations (p.iterations.toNat + 1) p

/-- One pass less. -/
def fewerIterations (p : Parameters) : Parameters := setIterations (p.iterations.toNat - 1) p

def setAngle (x : Float32) (p : Parameters) : Parameters :=
  { p with angle := SliderRange.angle.clamp x }

def setBranchLength (x : Float32) (p : Parameters) : Parameters :=
  { p with branchLength := SliderRange.branchLength.clamp x }

def setBranchWidth (x : Float32) (p : Parameters) : Parameters :=
  { p with branchWidth := SliderRange.branchWidth.clamp x }

def setLeafLength (x : Float32) (p : Parameters) : Parameters :=
  { p with leafLength := SliderRange.leafLength.clamp x }

def setLeafStartWidth (x : Float32) (p : Parameters) : Parameters :=
  { p with leafStartWidth := SliderRange.leafWidth.clamp x }

def setLeafEndWidth (x : Float32) (p : Parameters) : Parameters :=
  { p with leafEndWidth := SliderRange.leafWidth.clamp x }

/-- Set the angle variance.  Outside random mode it stays as it is. -/
def setAngleVariance (n : Int32) (p : Parameters) : Parameters :=
  if p.randomMode then
    { p with angleVariance := Int32.ofInt (IntegerRange.angleVariance.clamp n.toInt) }
  else p

/-- Make an edit if there is a value for it. -/
def setIfMoved {α : Type} (set : α → Parameters → Parameters) (value : Option α)
    (p : Parameters) : Parameters :=
  match value with
  | some x => set x p
  | none => p

/-- Set everything whose slider was moved. -/
def applySliders (e : SliderEdits) (p : Parameters) : Parameters :=
  p |> setIfMoved setAngle e.angle
    |> setIfMoved setBranchLength e.branchLength
    |> setIfMoved setBranchWidth e.branchWidth
    |> setIfMoved setLeafLength e.leafLength
    |> setIfMoved setLeafStartWidth e.leafStartWidth
    |> setIfMoved setLeafEndWidth e.leafEndWidth
    |> setIfMoved setAngleVariance e.angleVariance

/-- Switch random leaf colours on or off. -/
def toggleLeafColor (p : Parameters) : Parameters :=
  { p with randomLeafColor := !p.randomLeafColor }

/-! ### A frame of input -/

/-- Make an edit if it is asked for. -/
def editIf (asked : Bool) (edit : Parameters → Parameters) (p : Parameters) : Parameters :=
  if asked then edit p else p

/-- All edits of a frame, in order. -/
def edited (input : FrameInput) (p : Parameters) : Parameters :=
  p |> applySliders input.sliders
    |> editIf input.nextRuleSet nextRuleSet
    |> editIf input.previousRuleSet previousRuleSet
    |> editIf input.moreIterations moreIterations
    |> editIf input.fewerIterations fewerIterations
    |> editIf input.toggleLeafColor toggleLeafColor

/-- The commands of a frame, given the parameters before and after its edits. -/
def commands (input : FrameInput) (before after : Parameters) : List Command :=
  (if after != before then [.update after] else [])
    ++ (if input.toggleGrowth then [.toggleGrowth] else [])
    ++ (if input.toggleRandom then [.toggleRandom] else [])
    ++ (if input.regenerate || input.toggleLeafColor then [.regenerate] else [])

/-- The parameters after a frame of input, and its commands. -/
def handle (input : FrameInput) (p : Parameters) : Parameters × List Command :=
  (edited input p, commands input p (edited input p))

/-! ### Display -/

/-- A switch in words. -/
def onOff (flag : Bool) : String := if flag then "on" else "off"

/-- The parameters in words, one a line; measures have two places. -/
def displayLines (p : Parameters) : List String := [
  "Rule set: " ++ toString p.ruleSet.number.toNat,
  "Iterations: " ++ toString p.iterations.toNat,
  "Angle: " ++ Single.hundredthsText p.angle ++ "\u00b0",
  "Branch length: " ++ Single.hundredthsText p.branchLength,
  "Branch width: " ++ Single.hundredthsText p.branchWidth,
  "Leaf length: " ++ Single.hundredthsText p.leafLength,
  "Leaf start width: " ++ Single.hundredthsText p.leafStartWidth,
  "Leaf end width: " ++ Single.hundredthsText p.leafEndWidth,
  "Angle variance: " ++ Single.hundredthsText p.varianceDegrees ++ "\u00b0",
  "Random mode: " ++ onOff p.randomMode,
  "Random leaf colour: " ++ onOff p.randomLeafColor,
  "Observe growth: " ++ onOff p.growthObserved]

/-- What the panel shows. -/
def view (p : Parameters) : PanelView :=
  ⟨displayLines p, (RuleSet.select p.ruleSet).describeLines, p⟩

end Panel

end TurtleTree
