/-
TurtleTree/Program/Journal.lean

What the program tells about its work, line by line.

Every line has a level, and a reader who asks for a level gets the lines of that
level and of all more severe ones.

Design.  What a grower tells is a function of the events it reported, so no
state is needed for it: first it tells about its work while it carries the
commands of a frame out, then the program sums the same events up.
-/
import TurtleTree.Exchange.Records
import TurtleTree.Growth.Message

namespace TurtleTree

/-- Level of a line. -/
inductive LogLevel where
  | info
  | debug
  | trace
deriving DecidableEq, Repr

/-- Which lines a reader asks for. -/
inductive LogFilter where
  | off
  | error
  | warn
  | info
  | debug
  | trace
deriving DecidableEq, Repr

namespace LogFilter

/-- Number of levels that pass, from the most severe one on. -/
def rank : LogFilter → Nat
  | off => 0
  | error => 1
  | warn => 2
  | info => 3
  | debug => 4
  | trace => 5

/-- The filter of a name. -/
def ofName? : String → Option LogFilter
  | "off" => some off
  | "error" => some error
  | "warn" => some warn
  | "info" => some info
  | "debug" => some debug
  | "trace" => some trace
  | _ => none

/-- The filter of a reader who asks for nothing in particular. -/
def standard : LogFilter := info

end LogFilter

namespace LogLevel

/-- Name of a level. -/
def name : LogLevel → String
  | info => "INFO"
  | debug => "DEBUG"
  | trace => "TRACE"

def rank : LogLevel → Nat
  | info => 3
  | debug => 4
  | trace => 5

end LogLevel

/-- Part of the program that a line comes from. -/
inductive LogTarget where
  | program
  | grower
  | viewer
deriving DecidableEq, Repr

namespace LogTarget

/-- Name of a part. -/
def name : LogTarget → String
  | program => "arbor"
  | grower => "arbor_system_generation"
  | viewer => "arbor_rendering_macroquad"

end LogTarget

/-- A line of the journal. -/
structure LogLine where
  level : LogLevel
  target : LogTarget
  message : String
  /-- Names and values. -/
  fields : List (String × String)
deriving DecidableEq, Repr

namespace LogLine

/-- The line in words. -/
def text (l : LogLine) : String :=
  l.level.name ++ " " ++ l.target.name ++ ": " ++ l.message
    ++ String.join (l.fields.map fun (name, value) => " " ++ name ++ "=" ++ value)

/-- The filter lets the line through. -/
def passes (f : LogFilter) (l : LogLine) : Bool := l.level.rank ≤ f.rank

end LogLine

namespace Journal

/-- The lines a filter lets through, in words. -/
def shown (f : LogFilter) (lines : List LogLine) : List String :=
  (lines.filter (·.passes f)).map LogLine.text

/-! ### Events -/

/-- Fields of the start of a run. -/
def runFields (ruleSet : RuleSetId) (iterations : UInt32) (mode : GrowthMode) :
    List (String × String) :=
  [("rule_set", toString ruleSet.number.toNat), ("iterations", toString iterations.toNat),
    ("mode", mode.name)]

/-- Fields of the end of a run. -/
def countFields (segments leaves : Nat) : List (String × String) :=
  [("segments", toString segments), ("leaves", toString leaves)]

/-- What the grower tells about an event. -/
def told : Event → Option LogLine
  | .runCancelled discarded =>
    some ⟨.debug, .grower, "cancelled in-flight generation run",
      [("discarded", toString discarded)]⟩
  | .regenerationStarted ruleSet iterations mode =>
    some ⟨.debug, .grower, "starting tree generation", runFields ruleSet iterations mode⟩
  | .grammarExpanded pass bytes =>
    some ⟨.trace, .grower, "grammar pass",
      [("pass", toString pass.toNat), ("length", toString bytes)]⟩
  | .generationCompleted segments leaves =>
    some ⟨.debug, .grower, "tree generation complete", countFields segments leaves⟩
  | .parametersChanged | .segmentEmitted _ | .leafEmitted _ => none

/-- How the program sums an event up. -/
def summary : Event → Option LogLine
  | .parametersChanged => some ⟨.debug, .program, "parameter change detected", []⟩
  | .runCancelled discarded =>
    some ⟨.info, .program, "generation cancelled", [("discarded", toString discarded)]⟩
  | .regenerationStarted ruleSet iterations mode =>
    some ⟨.info, .program, "regenerating tree", runFields ruleSet iterations mode⟩
  | .generationCompleted segments leaves =>
    some ⟨.info, .program, "generation complete", countFields segments leaves⟩
  | .grammarExpanded _ _ | .segmentEmitted _ | .leafEmitted _ => none

/-- The lines about the events of some commands. -/
def ofEvents (events : Array Event) : List LogLine :=
  events.toList.filterMap told ++ events.toList.filterMap summary

/-! ### Other lines -/

def windowOpening : LogLine := ⟨.info, .viewer, "opening viewer window", []⟩

def treeGenerated (p : Parameters) (symbols segments leaves : Nat) : LogLine :=
  ⟨.info, .program, "tree generated",
    [("rule_set", toString p.ruleSet.number.toNat), ("iterations", toString p.iterations.toNat),
      ("symbols", toString symbols)] ++ countFields segments leaves⟩

def treeExported (path : String) : LogLine := ⟨.info, .program, "tree exported", [("path", path)]⟩

end Journal

end TurtleTree
