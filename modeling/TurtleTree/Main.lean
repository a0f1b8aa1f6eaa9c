/-
TurtleTree/Main.lean

The program: it reads its command line and the file with settings, and prints
and writes what the work on them hands out.

There is no screen to open a window on, so a window that is asked for shows no
frame.
-/
import TurtleTree.Program.Outcome

namespace TurtleTree

namespace Program

/-- The octets of a file, if it can be read. -/
def readOctets (path : String) : IO (Option (List UInt8)) := do
  try
    let octets ← IO.FS.readBinFile path
    pure (some octets.toList)
  catch _ => pure none

/-- Write a file if there is one to write, and tell what became of it. -/
def writeText (file : Option (String × String)) : IO FileFate := do
  match file with
  | none => pure .written
  | some (path, text) =>
    let opened : Option IO.FS.Handle ←
      try
        let handle ← IO.FS.Handle.mk path .write
        pure (some handle)
      catch _ => pure none
    match opened with
    | none => pure .refused
    | some handle =>
      try
        handle.putStr text
        handle.flush
        pure .written
      catch _ => pure .full

/-- Print lines, and hand them over at once. -/
def printLines (lines : List String) : IO Unit := do
  lines.forM fun line => IO.println line
  (← IO.getStdout).flush

/-- Report how a run ended, and answer its exit code. -/
def conclude (filter : LogFilter) (o : Outcome) : IO UInt32 := do
  (Journal.shown filter o.journal).forM fun line => IO.eprintln line
  match o.failure with
  | none => pure ()
  | some e =>
    IO.eprintln ("Error: " ++ e.message)
    match e.cause? with
    | some cause => IO.eprintln ("\nCaused by:\n    " ++ cause)
    | none => pure ()
  pure o.code

/-- Resolve a command line and carry its task out.  What is printed is printed
before the file is written, as both may go to the same place. -/
def run (a : Arguments) : IO Outcome := do
  let file ←
    match a.config with
    | some path => readOctets path
    | none => pure none
  match Task.resolve a file with
  | .error e => pure (Outcome.ofTaskError e)
  | .ok t =>
    let work := t.work ⟨900, []⟩
    printLines work.printed
    let fate ← writeText work.file
    pure (work.finish fate)

end Program

end TurtleTree

/-- The command line program. -/
def main (arguments : List String) : IO UInt32 := do
  let chosen ← IO.getEnv "ARBOR_LOG"
  let filter := (chosen.bind TurtleTree.LogFilter.ofName?).getD TurtleTree.LogFilter.standard
  match TurtleTree.Arguments.parse arguments with
  | .ok a =>
    let outcome ← TurtleTree.Program.run a
    TurtleTree.Program.conclude filter outcome
  | .error e =>
    let outcome := TurtleTree.Outcome.ofArgumentError e
    match e with
    | .help => TurtleTree.Program.printLines outcome.printed
    | e => IO.eprintln ("error: " ++ e.message)
    TurtleTree.Program.conclude filter outcome
