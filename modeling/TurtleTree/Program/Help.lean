/-
TurtleTree/Program/Help.lean

The help text of the program, and mistakes on a command line in words.
-/
import TurtleTree.Program.Arguments

namespace TurtleTree

/-- An option as the help text shows it. -/
structure OptionHelp where
  /-- The option with the name of its value. -/
  form : String
  about : String

namespace Help

/-- All options, in the order of the help text. -/
def options : List OptionHelp := [
  ⟨"    --config <PATH>", "TOML file providing parameters and controller tuning"⟩,
  ⟨"    --seed <SEED>", "Seed for the variance and leaf-material draws"⟩,
  ⟨"    --rule-set <RULE_SET>", "Rule set to expand (1-9; other ids keep the axiom)"⟩,
  ⟨"    --iterations <ITERATIONS>", "Number of grammar rewrite passes"⟩,
  ⟨"    --angle <ANGLE>", "Branching angle in degrees"⟩,
  ⟨"    --branch-length <BRANCH_LENGTH>", "Distance travelled per forward symbol"⟩,
  ⟨"    --branch-width <BRANCH_WIDTH>", "Width of branch segments"⟩,
  ⟨"    --leaf-length <LEAF_LENGTH>", "Length of leaves"⟩,
  ⟨"    --leaf-start-width <LEAF_START_WIDTH>", "Width of leaves at their anchor"⟩,
  ⟨"    --leaf-end-width <LEAF_END_WIDTH>", "Width of leaves at their tip"⟩,
  ⟨"    --angle-variance <ANGLE_VARIANCE>", "Random perturbation magnitude in degrees"⟩,
  ⟨"    --random-mode", "Perturb rotations with the variance table"⟩,
  ⟨"    --random-leaf-color", "Draw a random leaf colour per regeneration"⟩,
  ⟨"    --growth-observed", "Grow the tree one pass or symbol per frame"⟩,
  ⟨"    --import <STRING>", "Start from the parameters encoded in a share string"⟩,
  ⟨"    --share", "Print a share string for the resolved parameters"⟩,
  ⟨"    --export <PATH>", "Write the generated geometry to a JSON file"⟩,
  ⟨"    --view", "Open the interactive viewer instead of running headless"⟩,
  ⟨"-h, --help", "Print help"⟩]

/-- The lines of an option: its form, and below that what it is about. -/
def lines (o : OptionHelp) : List String := ["  " ++ o.form, "          " ++ o.about]

/-- The whole text. -/
def text : String :=
  "\n".intercalate
    (["Grow L-system trees with a 3D turtle", "", "Usage: arbor [OPTIONS]", "", "Options:"]
      ++ options.flatMap lines)

end Help

namespace ArgumentError

/-- The mistake in words. -/
def message : ArgumentError → String
  | unknown => "unexpected argument found"
  | repeated => "an option cannot be used multiple times"
  | missingValue => "a value is required but none was supplied"
  | unexpectedValue => "unexpected value for an option that takes none"
  | invalidValue => "invalid value for an option"
  | help => Help.text

end ArgumentError

end TurtleTree
