/-
TurtleTree/Settings.lean

Settings read from a TOML file: parameters, and how the grower is tuned.

All keys stand at the top of the document and all may be left out.  Keys of other
names are ignored, whatever their values are.
-/
import TurtleTree.Exchange.Records
import TurtleTree.Growth.Grower
import TurtleTree.Toml.Reader
import TurtleTree.Viewer.Picture

namespace TurtleTree

/-- An opaque colour in bytes. -/
structure Rgb where
  red : UInt8
  green : UInt8
  blue : UInt8
deriving DecidableEq, Repr

namespace Rgb

def toColor (c : Rgb) : Color := Color.ofBytes c.red c.green c.blue

end Rgb

/-- Settings of a file. -/
structure Settings where
  parameters : Parameters
  seed : Option UInt64
  /-- Colours to draw leaf materials from. -/
  leafPalette : Option (List Rgb)
  /-- Milliseconds between two looks at the parameters. -/
  pollMilliseconds : Option UInt64
deriving DecidableEq

/-- Why settings cannot be used. -/
inductive SettingsError where
  /-- The file is not there, or is not text. -/
  | unreadable (path : String)
  /-- The file is not a document, or a key has a value of another kind. -/
  | malformed (path : String)
  | emptyPalette
  | zeroPollInterval
  | tooManyIterations (iterations : UInt32)
deriving DecidableEq, Repr

namespace SettingsError

/-- The reason in words. -/
def message : SettingsError → String
  | unreadable path => "could not read configuration file '" ++ path ++ "'"
  | malformed path => "could not parse configuration file '" ++ path ++ "'"
  | emptyPalette => "leaf_palette must list at least one colour"
  | zeroPollInterval => "poll_interval_ms must be positive"
  | tooManyIterations iterations =>
    "iterations must be at most " ++ toString Parameters.maxIterations.toNat ++ ", got "
      ++ toString iterations.toNat

end SettingsError

/-! ### Values of keys -/

namespace Toml

/-- An integer between two bounds. -/
def toIntWithin? (low high : Int) : Toml → Option Int
  | .integer n => if low ≤ n ∧ n ≤ high then some n else none
  | _ => none

def toUInt8? (t : Toml) : Option UInt8 :=
  (t.toIntWithin? 0 (2 ^ 8 - 1)).map fun n => UInt8.ofNat n.toNat

def toUInt32? (t : Toml) : Option UInt32 :=
  (t.toIntWithin? 0 (2 ^ 32 - 1)).map fun n => UInt32.ofNat n.toNat

def toUInt64? (t : Toml) : Option UInt64 :=
  (t.toIntWithin? 0 (2 ^ 64 - 1)).map fun n => UInt64.ofNat n.toNat

def toInt32? (t : Toml) : Option Int32 :=
  (t.toIntWithin? (-(2 ^ 31)) (2 ^ 31 - 1)).map Int32.ofInt

/-- A number, whole or not, rounded to a single. -/
def toSingle? : Toml → Option Float32
  | .integer n => some (Float32.ofInt n)
  | .float x => some (Single.ofDouble x)
  | _ => none

def toBool? : Toml → Option Bool
  | .boolean b => some b
  | _ => none

/-- A colour: the first three items of an array. -/
def toRgb? : Toml → Option Rgb
  | .array (red :: green :: blue :: _) => do
    some { red := ← red.toUInt8?, green := ← green.toUInt8?, blue := ← blue.toUInt8? }
  | _ => none

def toPalette? : Toml → Option (List Rgb)
  | .array items => items.mapM toRgb?
  | _ => none

/-- The value of a key, or one to fall back on if the key is missing. -/
def get? {α : Type} (t : TomlTable) (key : String) (read : Toml → Option α) (fallback : α) :
    Option α :=
  match t.lookup key with
  | some value => read value
  | none => some fallback

end Toml

namespace Settings

/-- The settings of no file. -/
def standard : Settings := ⟨Parameters.standard, none, none, none⟩

instance : Inhabited Settings := ⟨standard⟩

/-! ### Reading -/

/-- The parameters among the keys of a table. -/
def parameters? (t : TomlTable) : Option Parameters := do
  let d := Parameters.standard
  some {
    ruleSet := ← Toml.get? t "rule_set" (fun v => v.toUInt32?.map RuleSetId.mk) d.ruleSet
    iterations := ← Toml.get? t "iterations" Toml.toUInt32? d.iterations
    angle := ← Toml.get? t "angle" Toml.toSingle? d.angle
    branchLength := ← Toml.get? t "branch_length" Toml.toSingle? d.branchLength
    branchWidth := ← Toml.get? t "branch_width" Toml.toSingle? d.branchWidth
    leafLength := ← Toml.get? t "leaf_length" Toml.toSingle? d.leafLength
    leafStartWidth := ← Toml.get? t "leaf_start_width" Toml.toSingle? d.leafStartWidth
    leafEndWidth := ← Toml.get? t "leaf_end_width" Toml.toSingle? d.leafEndWidth
    randomMode := ← Toml.get? t "random_mode" Toml.toBool? d.randomMode
    angleVariance := ← Toml.get? t "angle_variance" Toml.toInt32? d.angleVariance
    randomLeafColor := ← Toml.get? t "random_leaf_color" Toml.toBool? d.randomLeafColor
    growthObserved := ← Toml.get? t "growth_observed" Toml.toBool? d.growthObserved }

/-- The settings among the keys of a table. -/
def ofTable? (t : TomlTable) : Option Settings := do
  some {
    parameters := ← parameters? t
    seed := ← Toml.get? t "seed" (fun v => v.toUInt64?.map some) none
    leafPalette := ← Toml.get? t "leaf_palette" (fun v => v.toPalette?.map some) none
    pollMilliseconds := ← Toml.get? t "poll_interval_ms" (fun v => v.toUInt64?.map some) none }

/-- Settings have a colour to draw from, a poll interval, and not too many passes. -/
def check (s : Settings) : Except SettingsError Settings :=
  if s.leafPalette = some [] then .error .emptyPalette
  else if s.pollMilliseconds = some 0 then .error .zeroPollInterval
  else if Parameters.maxIterations < s.parameters.iterations then
    .error (.tooManyIterations s.parameters.iterations)
  else .ok s

/-- The settings of a document.  The path is only used in words. -/
def parse (path text : String) : Except SettingsError Settings :=
  match (Toml.parse? text).bind ofTable? with
  | some s => s.check
  | none => .error (.malformed path)

/-- The settings of a file, given its octets if it could be read. -/
def load (path : String) (octets : Option (List UInt8)) : Except SettingsError Settings :=
  match octets.bind Octets.toText? with
  | some text => parse path text
  | none => .error (.unreadable path)

/-! ### Use -/

/-- Colours to draw leaf materials from. -/
def palette (s : Settings) : List Color :=
  match s.leafPalette with
  | some colors => colors.map Rgb.toColor
  | none => Color.leafPalette

/-- The configuration of the grower.  A seed given apart comes before that of the
file. -/
def growthConfig (s : Settings) (seed : Option UInt64) : GrowthConfig :=
  { GrowthConfig.ofSeed ((seed.or s.seed).getD GrowthConfig.standardSeed) with
    pollInterval :=
      (s.pollMilliseconds.map Duration.ofMilliseconds).getD GrowthConfig.standardPollInterval
    paletteSize := s.palette.length }

end Settings

end TurtleTree
