/-
TurtleTree/Scene/Store.lean

A scene that keeps every emission in memory.

Handles are numbers counted up from zero by segments and leaves together, and
the count goes on over a clearing.  So a handle is never given out twice, and
one from before a clearing names nothing.

Design.  The emissions since the last clearing stand in one array in the order
of their creation, and the handle of the first of them is remembered.  A handle
then is a place in the array, and neither a search nor a second table for
leaves is needed.
-/
import TurtleTree.Scene.Basic

namespace TurtleTree

/-- An emission kept in a store, shown or hidden. -/
structure StoredEmission where
  emission : Emission
  active : Bool
deriving DecidableEq

namespace StoredEmission

/-- The segment, if the emission is one. -/
def segment? (r : StoredEmission) : Option Segment :=
  match r.emission with
  | .segment s => some s
  | .leaf _ => none

/-- The leaf, if the emission is one. -/
def leaf? (r : StoredEmission) : Option Leaf :=
  match r.emission with
  | .segment _ => none
  | .leaf l => some l

/-- The handle is one of the emission's kind. -/
def hasKind (r : StoredEmission) : EmissionHandle → Bool
  | .segment _ => r.segment?.isSome
  | .leaf _ => r.leaf?.isSome

end StoredEmission

namespace EmissionHandle

/-- The number of a handle of either kind. -/
def number : EmissionHandle → UInt64
  | .segment h => h.number
  | .leaf h => h.number

end EmissionHandle

/-- A scene in memory. -/
structure SceneStore where
  /-- Number of handles given out before the last clearing. -/
  firstHandle : Nat
  /-- Emissions since the last clearing. -/
  records : Array StoredEmission
  /-- Number of clearings. -/
  clears : Nat
deriving DecidableEq

namespace SceneStore

def empty : SceneStore := ⟨0, #[], 0⟩

instance : Inhabited SceneStore := ⟨empty⟩

/-! ### Changing a store -/

/-- The number of the next handle.  It stops at the largest number there is. -/
def nextHandle (s : SceneStore) : UInt64 :=
  UInt64.ofNat (Min.min (s.firstHandle + s.records.size) (2 ^ 64 - 1))

/-- Keep an emission under the next handle, shown. -/
def keep (s : SceneStore) (e : Emission) : SceneStore :=
  { s with records := s.records.push ⟨e, true⟩ }

/-- Place of a handle in the array, if it was given out since the last clearing. -/
def place? (s : SceneStore) (h : EmissionHandle) : Option (Fin s.records.size) :=
  if s.firstHandle ≤ h.number.toNat then
    if hp : h.number.toNat - s.firstHandle < s.records.size then
      if (s.records[h.number.toNat - s.firstHandle]).hasKind h then some ⟨_, hp⟩ else none
    else none
  else none

/-- Show or hide an emission. -/
def setActive (s : SceneStore) (h : EmissionHandle) (active : Bool) : SceneStore :=
  match s.place? h with
  | some i => { s with records := s.records.modify i fun r => { r with active } }
  | none => s

/-- Release every emission, keeping the count of handles. -/
def clear (s : SceneStore) : SceneStore where
  firstHandle := s.firstHandle + s.records.size
  records := #[]
  clears := s.clears + 1

instance : Scene SceneStore where
  addSegment s segment := (⟨s.nextHandle⟩, s.keep (.segment segment))
  addLeaf s leaf := (⟨s.nextHandle⟩, s.keep (.leaf leaf))
  setActive := setActive
  clear := clear

/-! ### Looking into a store -/

/-- Shown emissions, in the order of their creation. -/
def active (s : SceneStore) : List StoredEmission := s.records.toList.filter (·.active)

/-- Shown segments, in the order of their creation. -/
def activeSegments (s : SceneStore) : List Segment := s.active.filterMap (·.segment?)

/-- Shown leaves, in the order of their creation. -/
def activeLeaves (s : SceneStore) : List Leaf := s.active.filterMap (·.leaf?)

/-- Kept segments, shown or hidden. -/
def storedSegments (s : SceneStore) : List Segment := s.records.toList.filterMap (·.segment?)

/-- Kept leaves, shown or hidden. -/
def storedLeaves (s : SceneStore) : List Leaf := s.records.toList.filterMap (·.leaf?)

/-- The segment of a handle, shown or hidden. -/
def segment? (s : SceneStore) (h : SegmentHandle) : Option Segment :=
  (s.place? (.segment h)).bind fun i => s.records[i].segment?

/-- The leaf of a handle, shown or hidden. -/
def leaf? (s : SceneStore) (h : LeafHandle) : Option Leaf :=
  (s.place? (.leaf h)).bind fun i => s.records[i].leaf?

end SceneStore

end TurtleTree
