/-
TurtleTree/Program/Outcome.lean

What a run of the program leaves behind: printed lines, a journal, perhaps a
session at the window, and an exit code.

Design.  Work is done before anything is written, and what it leaves to be done
is the one file it wants written.  The outcome depends on the work and on what
becomes of that file (`Work.finish`).
-/
import TurtleTree.Program.Help
import TurtleTree.Program.Task

namespace TurtleTree

/-- The work of a task. -/
structure Work where
  printed : List String
  /-- The journal; with a window, up to its opening. -/
  journal : List LogLine
  viewing : Option Task.Viewing
  /-- Path and contents of the file to write. -/
  file : Option (String × String)

/-- What becomes of a file that work wants written. -/
inductive FileFate where
  | written
  /-- The file cannot be created. -/
  | refused
  /-- The file is created, and takes no octet. -/
  | full
deriving DecidableEq, Repr

namespace FileFate

/-- A text is collected in a block of this many octets before any of it is
handed to its file. -/
def blockSize : Nat := 8192

/-- The step that fails, if one does.  A full file is noticed as soon as a block
is handed over: while the text is written if the text exceeds one block, and
only when the last block is flushed if it does not. -/
def failedStep? (text : String) : FileFate → Option ExportStep
  | written => none
  | refused => some .create
  | full => some (if blockSize < text.utf8ByteSize then .write else .flush)

end FileFate

/-- How a run of the program ends. -/
structure Outcome where
  code : UInt32
  printed : List String
  journal : List LogLine
  viewing : Option Task.Viewing
  failure : Option TaskError

namespace Outcome

/-- A run that ends before any work. -/
def early (code : UInt32) (printed : List String) (failure : Option TaskError) : Outcome :=
  ⟨code, printed, [], none, failure⟩

/-- A command line that is not carried out. -/
def ofArgumentError : ArgumentError → Outcome
  | .help => early 0 [Help.text] none
  | .unknown | .repeated | .missingValue | .unexpectedValue | .invalidValue => early 2 [] none

/-- A task that cannot be resolved. -/
def ofTaskError (e : TaskError) : Outcome := early 1 [] (some e)

end Outcome

namespace Task

/-- Carry a task out, at a window that is used as the script says. -/
def work (t : Task) (script : Script) : Work :=
  let printed := t.shareLine?.toList
  if t.arguments.view then
    let viewing := t.viewing script
    ⟨printed, viewing.opening, some viewing, none⟩
  else
    let harvest := t.harvest
    ⟨printed, harvest.journal, none, t.arguments.exporting.map fun path => (path, harvest.tree.text)⟩

end Task

namespace Work

/-- Exit code of a session that a frame made end. -/
def endingCode : Ending → UInt32
  | .quit | .closed => 0
  | .overlong => 101

/-- The outcome of work, given what becomes of its file. -/
def finish (w : Work) (fate : FileFate) : Outcome :=
  match w.file with
  | none =>
    let code := (w.viewing.map fun v => endingCode v.recording.ending).getD 0
    ⟨code, w.printed, w.journal, w.viewing, none⟩
  | some (path, text) =>
    match fate.failedStep? text with
    | none => ⟨0, w.printed, w.journal ++ [Journal.treeExported path], w.viewing, none⟩
    | some step => ⟨1, w.printed, w.journal, w.viewing, some (.exporting step path)⟩

end Work

end TurtleTree
