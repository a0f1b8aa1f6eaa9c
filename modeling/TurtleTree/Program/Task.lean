/-
TurtleTree/Program/Task.lean

From a command line to a grown tree.

Settings come first, then an imported share string, which takes the place of the
parameters of the settings, and last the options of the command line.  With that
the task is resolved, and nothing can be refused any more but the export file.

Design.  A task is resolved and carried out by pure functions.  The file with
settings is handed in as octets, and what has to be printed or written is
handed out.
-/
import TurtleTree.Exchange.Export
import TurtleTree.Exchange.Share
import TurtleTree.Program.Arguments
import TurtleTree.Program.Journal
import TurtleTree.Settings
import TurtleTree.Viewer.Session

namespace TurtleTree

/-- What is done with the export file, in this order. -/
inductive ExportStep where
  | create
  | write
  | flush
deriving DecidableEq, Repr

/-- What is done, up to the path of the file. -/
def ExportStep.phrase : ExportStep → String
  | create => "create export file"
  | write => "write tree export to"
  | flush => "flush tree export to"

/-- Why the program stops early. -/
inductive TaskError where
  | settings (e : SettingsError)
  /-- The share string to import is refused. -/
  | importing (e : ShareError)
  /-- A step with the export file fails. -/
  | exporting (step : ExportStep) (path : String)
deriving DecidableEq, Repr

namespace TaskError

/-- The reason in words. -/
def message : TaskError → String
  | settings e => e.message
  | importing _ => "failed to import share string"
  | exporting step path => "failed to " ++ step.phrase ++ " '" ++ path ++ "'"

/-- What is behind the reason, where the program can tell. -/
def cause? : TaskError → Option String
  | importing e => some e.message
  | settings _ | exporting _ _ => none

end TaskError

/-- A command line with everything it refers to. -/
structure Task where
  arguments : Arguments
  settings : Settings
  parameters : Parameters
deriving DecidableEq

namespace Task

/-! ### Resolving -/

/-- The settings of a command line, given the octets of the file it names. -/
def settings? (a : Arguments) (file : Option (List UInt8)) : Except TaskError Settings :=
  match a.config with
  | some path => (Settings.load path file).mapError .settings
  | none => .ok Settings.standard

/-- The parameters that the options of a command line are applied to. -/
def base? (a : Arguments) (s : Settings) : Except TaskError Parameters :=
  match a.importing with
  | some text => (Share.decode text).mapError .importing
  | none => .ok s.parameters

/-- The task of a command line. -/
def resolve (a : Arguments) (file : Option (List UInt8)) : Except TaskError Task := do
  let settings ← settings? a file
  let base ← base? a settings
  pure ⟨a, settings, a.overrideParameters base⟩

/-! ### Carrying out -/

/-- The line printed before a tree is grown, if one was asked for. -/
def shareLine? (t : Task) : Option String :=
  if t.arguments.share then some (Share.encode t.parameters) else none

/-- The grower of a task, before its first run. -/
def grower (t : Task) : Grower SceneStore :=
  Grower.begin (t.settings.growthConfig t.arguments.seed) t.parameters (some SceneStore.empty)

end Task

/-! ### Without a window -/

namespace Grower

/-- Time that passes between two ticks without a window. -/
def headlessFrame : Duration := Duration.ofMilliseconds 16

/-- Grow a tree and tick until it is complete. -/
def growHeadless (g : Grower SceneStore) : Grower SceneStore :=
  (g.regenerate.tickToEnd headlessFrame).1

/-- Number of symbols of the tree last grown. -/
def symbolCount (g : Grower SceneStore) : Nat := (g.expanded.map String.length).getD 0

/-- The tree that the scene of the grower shows. -/
def tree (g : Grower SceneStore) : TreeExport :=
  TreeExport.capture g.parameters g.symbolCount (g.scene.getD SceneStore.empty)

end Grower

namespace Task

/-- A tree grown without a window. -/
structure Harvest where
  tree : TreeExport
  journal : List LogLine

/-- Grow the tree of a task without a window. -/
def harvest (t : Task) : Harvest :=
  let (events, g) := t.grower.growHeadless.takeEvents
  let tree := g.tree
  ⟨tree, Journal.ofEvents events
    ++ [Journal.treeGenerated tree.parameters tree.symbols tree.segments.length
      tree.leaves.length]⟩

/-! ### With a window -/

/-- What the window of the program shows at first. -/
def presentation (t : Task) : Presentation where
  title := "Arbor"
  background := Color.ofBytes 24 28 32
  picture := Picture.blank Color.branch Color.leaf t.settings.palette

/-- The program waits for the screen in each frame. -/
def viewerSettings : ViewerSettings := ViewerSettings.standard.withVsync true

/-- A session at the window. -/
structure Viewing where
  /-- The journal before the window opens. -/
  opening : List LogLine
  request : WindowRequest
  recording : Viewer.Recording GrowthSession (Array Event)

/-- Grow the tree of a task and show it in a window. -/
def viewing (t : Task) (script : Script) : Viewing :=
  let (events, g) := t.grower.regenerate.takeEvents
  { opening := Journal.ofEvents events ++ [Journal.windowOpening]
    request := Viewer.request viewerSettings t.presentation
    recording :=
      Viewer.play viewerSettings t.presentation GrowthSession.host (GrowthSession.ofGrower g)
        script }

end Task

end TurtleTree
