/-
TurtleTree/Exchange/Records.lean

The JSON forms of parameters, poses, segments and leaves.

Numbers under which something is kept are bare numbers, points and directions
are arrays of their coordinates, and everything else is a record with named
fields.  Parameters that are left out have their standard values.  Written forms
have their fields in a fixed order.
-/
import TurtleTree.Json.Record
import TurtleTree.Json.Writer
import TurtleTree.Parameters
import TurtleTree.Scene.Basic

namespace TurtleTree

/-! ### Parameters -/

namespace RuleSetId

def toJson (r : RuleSetId) : Json := Json.ofNat r.number.toNat

def ofJson? (j : Json) : Option RuleSetId := j.toUInt32?.map RuleSetId.mk

end RuleSetId

namespace GrowthMode

/-- Name of a mode. -/
def name : GrowthMode → String
  | instant => "Instant"
  | stepwise => "Stepwise"

def ofName? (name : String) : Option GrowthMode :=
  if name = "Instant" then some instant
  else if name = "Stepwise" then some stepwise
  else none

def toJson (m : GrowthMode) : Json := .string (Json.plain m.name)

/-- A mode is its name, or an object with the name for its only key and nothing
under it. -/
def ofJson? : Json → Option GrowthMode
  | .string raw => (Json.text? raw).bind ofName?
  | .object [(key, .null)] => (Json.text? key).bind ofName?
  | _ => none

end GrowthMode

namespace Parameters

/-- Names of the fields, in order. -/
def fieldNames : List String :=
  ["rule_set", "iterations", "angle", "branch_length", "branch_width", "leaf_length",
    "leaf_start_width", "leaf_end_width", "random_mode", "angle_variance", "random_leaf_color",
    "growth_observed"]

/-- Values of the fields, in order. -/
def fieldValues (p : Parameters) : List Json :=
  [p.ruleSet.toJson, Json.ofNat p.iterations.toNat, Json.ofSingle p.angle,
    Json.ofSingle p.branchLength, Json.ofSingle p.branchWidth, Json.ofSingle p.leafLength,
    Json.ofSingle p.leafStartWidth, Json.ofSingle p.leafEndWidth, .bool p.randomMode,
    Json.ofInt p.angleVariance.toInt, .bool p.randomLeafColor, .bool p.growthObserved]

def toJson (p : Parameters) : Json := Json.record (fieldNames.zip p.fieldValues)

/-- Parameters from the values of their fields. -/
def ofFields? : List (Option Json) → Option Parameters
  | [ruleSet, iterations, angle, branchLength, branchWidth, leafLength, leafStartWidth,
      leafEndWidth, randomMode, angleVariance, randomLeafColor, growthObserved] => do
    let d := standard
    some {
      ruleSet := ← Json.defaulted? RuleSetId.ofJson? d.ruleSet ruleSet
      iterations := ← Json.defaulted? Json.toUInt32? d.iterations iterations
      angle := ← Json.defaulted? Json.toSingle? d.angle angle
      branchLength := ← Json.defaulted? Json.toSingle? d.branchLength branchLength
      branchWidth := ← Json.defaulted? Json.toSingle? d.branchWidth branchWidth
      leafLength := ← Json.defaulted? Json.toSingle? d.leafLength leafLength
      leafStartWidth := ← Json.defaulted? Json.toSingle? d.leafStartWidth leafStartWidth
      leafEndWidth := ← Json.defaulted? Json.toSingle? d.leafEndWidth leafEndWidth
      randomMode := ← Json.defaulted? Json.toBool? d.randomMode randomMode
      angleVariance := ← Json.defaulted? Json.toInt32? d.angleVariance angleVariance
      randomLeafColor := ← Json.defaulted? Json.toBool? d.randomLeafColor randomLeafColor
      growthObserved := ← Json.defaulted? Json.toBool? d.growthObserved growthObserved }
  | _ => none

def ofJson? (j : Json) : Option Parameters := (j.fields? .partly fieldNames).bind ofFields?

/-- The parameters of a JSON text, given as octets. -/
def parse? (octets : List UInt8) : Option Parameters := (Json.parse? octets).bind ofJson?

end Parameters

/-! ### Geometry -/

namespace Vector3

def toJson (v : Vector3) : Json :=
  .array [Json.ofSingle v.x, Json.ofSingle v.y, Json.ofSingle v.z]

def ofJson? (j : Json) : Option Vector3 :=
  match j.toSingles? 3 with
  | some [x, y, z] => some ⟨x, y, z⟩
  | _ => none

end Vector3

namespace Rotation

def toJson (q : Rotation) : Json :=
  .array [Json.ofSingle q.x, Json.ofSingle q.y, Json.ofSingle q.z, Json.ofSingle q.w]

def ofJson? (j : Json) : Option Rotation :=
  match j.toSingles? 4 with
  | some [x, y, z, w] => some ⟨x, y, z, w⟩
  | _ => none

end Rotation

namespace Pose

def toJson (p : Pose) : Json :=
  Json.record [("position", p.position.toJson), ("orientation", p.orientation.toJson)]

def ofJson? (j : Json) : Option Pose :=
  match j.fields? .whole ["position", "orientation"] with
  | some [position, orientation] => do
    some {
      position := ← Json.required? Vector3.ofJson? position
      orientation := ← Json.required? Rotation.ofJson? orientation }
  | _ => none

end Pose

namespace Segment

def toJson (s : Segment) : Json :=
  Json.record [("start", s.start.toJson), ("end", s.finish.toJson),
    ("width", Json.ofSingle s.width)]

def ofJson? (j : Json) : Option Segment :=
  match j.fields? .whole ["start", "end", "width"] with
  | some [start, finish, width] => do
    some {
      start := ← Json.required? Vector3.ofJson? start
      finish := ← Json.required? Vector3.ofJson? finish
      width := ← Json.required? Json.toSingle? width }
  | _ => none

end Segment

namespace Material

def toJson (m : Material) : Json := Json.ofNat m.index.toNat

def ofJson? (j : Json) : Option Material := j.toUInt32?.map Material.mk

end Material

namespace Leaf

def toJson (l : Leaf) : Json :=
  Json.record [("anchor", l.anchor.toJson), ("orientation", l.orientation.toJson),
    ("length", Json.ofSingle l.length), ("start_width", Json.ofSingle l.startWidth),
    ("end_width", Json.ofSingle l.endWidth),
    ("material", (l.material.map Material.toJson).getD .null)]

/-- A leaf; in an object its material may be left out. -/
def ofJson? (j : Json) : Option Leaf :=
  match j.fields? .whole
    ["anchor", "orientation", "length", "start_width", "end_width", "material"] with
  | some [anchor, orientation, length, startWidth, endWidth, material] => do
    some {
      anchor := ← Json.required? Vector3.ofJson? anchor
      orientation := ← Json.required? Rotation.ofJson? orientation
      length := ← Json.required? Json.toSingle? length
      startWidth := ← Json.required? Json.toSingle? startWidth
      endWidth := ← Json.required? Json.toSingle? endWidth
      material := ← Json.defaulted? (Json.toOption? Material.ofJson?) none material }
  | _ => none

end Leaf

/-! ### Handles -/

namespace SegmentHandle

def toJson (h : SegmentHandle) : Json := Json.ofNat h.number.toNat

def ofJson? (j : Json) : Option SegmentHandle := j.toUInt64?.map SegmentHandle.mk

end SegmentHandle

namespace LeafHandle

def toJson (h : LeafHandle) : Json := Json.ofNat h.number.toNat

def ofJson? (j : Json) : Option LeafHandle := j.toUInt64?.map LeafHandle.mk

end LeafHandle

end TurtleTree
