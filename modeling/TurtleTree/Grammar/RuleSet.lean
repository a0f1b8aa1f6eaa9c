/-
TurtleTree/Grammar/RuleSet.lean

Rule sets of a deterministic, context-free L-system, and the catalogue of them.

One pass of a rule set is parallel substitution: every character that owns a
rule is replaced by its successor, every other character stays.

Design.  `RuleSet.image` is the replacement of a single character and a pass is
`flatMap` of it over the characters (`RuleSet.apply`), so a pass of two joined
strings is the two passes joined, and all laws of passes are laws of `flatMap`.
-/
import TurtleTree.Parameters

namespace TurtleTree

/-- A production: `predecessor` is replaced by `successor`. -/
structure Rule where
  predecessor : Char
  successor : String
deriving BEq, DecidableEq, Repr

/-- The productions of an L-system with the string it starts from. -/
structure RuleSet where
  id : RuleSetId
  start : String
  rules : List Rule
deriving DecidableEq, Repr

namespace RuleSet

/-! ### A single pass -/

/-- The set replaces nothing. -/
def isIdentity (r : RuleSet) : Bool := r.rules.isEmpty

/-- The successor of a symbol, if it owns a rule.  Of two rules for one symbol
the first is used. -/
def successor? (r : RuleSet) (symbol : Char) : Option String :=
  (r.rules.find? fun rule => rule.predecessor == symbol).map Rule.successor

/-- What a symbol becomes in one pass. -/
def image (r : RuleSet) (symbol : Char) : List Char :=
  match r.successor? symbol with
  | some successor => successor.toList
  | none => [symbol]

/-- A symbol becomes the successor of a rule that it owns, or owns none and stays. -/
theorem image_cases (r : RuleSet) (x : Char) :
    (∃ rule ∈ r.rules, rule.predecessor = x ∧ r.image x = rule.successor.toList) ∨
    ((∀ rule ∈ r.rules, rule.predecessor ≠ x) ∧ r.image x = [x]) := by
  cases hfind : r.rules.find? fun rule => rule.predecessor == x with
  | some rule =>
    refine Or.inl ⟨rule, List.mem_of_find?_eq_some hfind, ?_, ?_⟩
    · simpa using List.find?_some hfind
    · simp only [image, successor?, hfind, Option.map_some]
  | none =>
    refine Or.inr ⟨fun rule hrule => ?_, ?_⟩
    · simpa using List.find?_eq_none.mp hfind rule hrule
    · simp only [image, successor?, hfind, Option.map_none]

/-- One pass over a string. -/
def apply (r : RuleSet) (input : String) : String :=
  String.ofList (input.toList.flatMap r.image)

@[simp] theorem toList_apply (r : RuleSet) (input : String) :
    (r.apply input).toList = input.toList.flatMap r.image := by
  simp [apply]

/-- The string after `n` passes. -/
def applyTimes (r : RuleSet) : Nat → String → String
  | 0, input => input
  | n + 1, input => applyTimes r n (r.apply input)

/-! ### Description -/

/-- Line of the description for the rule of a number. -/
def describeRule (number : Nat) (rule : Rule) : String :=
  "Rule" ++ toString number ++ ": " ++ rule.predecessor.toString ++ " \u2192 " ++ rule.successor

/-- The lines shown for a rule set: its start, then its rules. -/
def describeLines (r : RuleSet) : List String :=
  if r.isIdentity then ["Default Rules"]
  else
    ("Axiom: " ++ r.start) ::
      r.rules.zipIdx.map fun (rule, index) => describeRule (index + 1) rule

/-- The text shown for a rule set. -/
def describe (r : RuleSet) : String := "\n".intercalate r.describeLines

/-! ### The catalogue -/

/-- The string every catalogued rule set starts from. -/
def commonStart : String := "F"

/-- A rule set of the catalogue. -/
def catalogued (number : UInt32) (rules : List Rule) : RuleSet := ⟨⟨number⟩, commonStart, rules⟩

/-- All catalogued rule sets, in the order of their numbers. -/
def catalogue : List RuleSet := [
  catalogued 1 [⟨'F', "FF-[-F+F+F]+[+F-F-F]"⟩],
  catalogued 2 [⟨'F', "F[+F]F[-F]F"⟩],
  catalogued 3 [⟨'F', "F[+F]F[-F][F]"⟩],
  catalogued 4 [⟨'F', "F[+F][-F]F"⟩],
  catalogued 5 [⟨'F', "G[+F]G[-F]+F"⟩, ⟨'G', "GG"⟩],
  catalogued 6 [⟨'F', "G[+F][-F]GF"⟩, ⟨'G', "GG"⟩],
  catalogued 7 [⟨'F', "G-[[F]+F]+G[+GF]-F"⟩, ⟨'G', "GG"⟩],
  catalogued 8 [⟨'F', "[G[-F+G[+GF]][*-F+G[+GF]][/-F+G[+GF]-F]]"⟩, ⟨'G', "GG"⟩],
  catalogued 9 [⟨'F', "[*+GF]F[+GF][/+G-GF]"⟩, ⟨'G', "GG"⟩]]

/-- The rule set of a number.  A number outside the catalogue has no rules, so
its start string stays as it is. -/
def select (id : RuleSetId) : RuleSet :=
  (catalogue.find? fun r => r.id == id).getD ⟨id, commonStart, []⟩

end RuleSet

end TurtleTree
