/-
TurtleTree/Viewer/Window.lean

The viewer window: one frame after the other, it gathers input, lets its host
change the picture, moves the camera, and draws.

A frame starts with the keys; the quit key ends the program there.  The keys and
what the panel of the frame before has latched make the input.  The host is told
the time since the last frame and the input, and may change the picture.  Then
the tree is drawn, and the panel over it, whose response waits in the latches.

Design.  A session at the window is a script of frames: what the user presses,
clicks and moves, and how long each frame took.  `Viewer.play` maps a script to
what is drawn, and to how it ended.  The host is a state with an update function
that may leave a note for each frame.
-/
import TurtleTree.Viewer.Camera
import TurtleTree.Viewer.Overlay

namespace TurtleTree

/-! ### Settings -/

/-- How the window is opened and what is drawn in it. -/
structure ViewerSettings where
  /-- Screen refreshes per frame; without it the platform decides. -/
  swapInterval : Option Int32
  /-- Speed of the camera in radians per second. -/
  orbitSpeed : Float32
  showPanel : Bool
deriving BEq, DecidableEq

namespace ViewerSettings

def standard : ViewerSettings := ⟨none, 0.25, true⟩

instance : Inhabited ViewerSettings := ⟨standard⟩

def withSwapInterval (s : ViewerSettings) (interval : Option Int32) : ViewerSettings :=
  { s with swapInterval := interval }

/-- Wait for the screen in each frame, or never. -/
def withVsync (s : ViewerSettings) (enabled : Bool) : ViewerSettings :=
  s.withSwapInterval (some (if enabled then 1 else 0))

def withOrbitSpeed (s : ViewerSettings) (speed : Float32) : ViewerSettings :=
  { s with orbitSpeed := speed }

def withPanel (s : ViewerSettings) (shown : Bool) : ViewerSettings := { s with showPanel := shown }

end ViewerSettings

/-- What a window shows before its first frame. -/
structure Presentation where
  title : String
  background : Color
  picture : Picture

/-- A window as it is asked for. -/
structure WindowRequest where
  title : String
  width : Nat
  height : Nat
  swapInterval : Option Int32
deriving DecidableEq, Repr

/-! ### Scripts -/

/-- What happens at the window during one frame. -/
structure Frame where
  /-- Seconds since the last frame. -/
  elapsed : Float32
  /-- Names of the keys pressed. -/
  keys : List String
  pointer : Pointer

/-- A session at the window. -/
structure Script where
  /-- Height of the screen. -/
  height : Float32
  frames : List Frame

/-- How a session ends. -/
inductive Ending where
  /-- The user pressed a quit key. -/
  | quit
  /-- The user closed the window. -/
  | closed
  /-- A frame took longer than any duration. -/
  | overlong
deriving DecidableEq, Repr

/-! ### Frames -/

/-- The host of a window: a state, changed in each frame together with the
picture, and a note about the frame. -/
structure Host (α β : Type) where
  update : Duration → FrameInput → α → Picture → α × Picture × β

/-- State of the viewer between two frames. -/
structure ViewerState (α : Type) where
  host : α
  picture : Picture
  camera : OrbitCamera
  latches : PanelLatches

namespace Viewer

variable {α β : Type}

/-- The window that is asked for. -/
def request (s : ViewerSettings) (p : Presentation) : WindowRequest :=
  ⟨p.title, 1280, 900, s.swapInterval⟩

/-- The state before the first frame. -/
def start (s : ViewerSettings) (p : Presentation) (host : α) : ViewerState α :=
  ⟨host, p.picture, OrbitCamera.ofSpeed s.orbitSpeed, PanelLatches.empty⟩

/-- Time since the last frame.  A negative one, or what is not a number, is no
time; a time beyond all durations is an error. -/
def elapsed? (seconds : Float32) : Option Duration := Duration.ofSingle? (Single.max seconds 0)

/-- The calls that draw the tree. -/
def drawTree (background : Color) (camera : OrbitCamera) (p : Picture) : List DrawCall :=
  let aim := camera.aim p.bounds?
  [.clear background, .camera aim.eye aim.target Vector3.up]
    ++ DrawCall.lines p ++ [.defaultCamera]

/-- The panel that is drawn, if any. -/
def shownPanel (s : ViewerSettings) (p : Picture) : Option PanelView :=
  if s.showPanel then p.panel else none

/-- What a frame does. -/
inductive FrameResult (α β : Type) where
  | ended (reason : Ending)
  | drawn (calls : List DrawCall) (note : β) (state : ViewerState α)

/-- One frame. -/
def playFrame (s : ViewerSettings) (background : Color) (host : Host α β) (height : Float32)
    (state : ViewerState α) (f : Frame) : FrameResult α β :=
  let keys := Shortcuts.ofKeys f.keys
  if keys.quit then .ended .quit
  else
    match elapsed? f.elapsed with
    | none => .ended .overlong
    | some elapsed =>
      let (input, latches) := state.latches.gather keys
      let (host, picture, note) := host.update elapsed input state.host state.picture
      let camera := state.camera.advance elapsed
      let tree := drawTree background camera picture
      match shownPanel s picture with
      | none => .drawn tree note ⟨host, picture, camera, latches⟩
      | some view =>
        .drawn (tree ++ Overlay.draw height view) note
          ⟨host, picture, camera, latches.register (Overlay.response f.pointer view)⟩

/-- What a session leaves behind. -/
structure Recording (α β : Type) where
  /-- Calls and note of every frame that was drawn. -/
  frames : List (List DrawCall × β)
  ending : Ending
  /-- The host after the last frame. -/
  host : α

/-- Play frames until one of them ends the program or the window is closed. -/
def playFrames (s : ViewerSettings) (background : Color) (host : Host α β) (height : Float32)
    (state : ViewerState α) : List Frame → Recording α β
  | [] => ⟨[], .closed, state.host⟩
  | f :: rest =>
    match playFrame s background host height state f with
    | .ended reason => ⟨[], reason, state.host⟩
    | .drawn calls note state =>
      let r := playFrames s background host height state rest
      { r with frames := (calls, note) :: r.frames }

/-- Open a window and play a script in it. -/
def play (s : ViewerSettings) (p : Presentation) (host : Host α β) (initial : α)
    (script : Script) : Recording α β :=
  playFrames s p.background host script.height (start s p initial) script.frames

end Viewer

end TurtleTree
