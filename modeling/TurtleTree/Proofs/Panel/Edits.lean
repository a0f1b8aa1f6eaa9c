/-
TurtleTree/Proofs/Panel/Edits.lean

What a frame of input asks for, parameter by parameter.

The panel makes its edits one after the other, each of them on the whole record
of parameters, and leaves the two toggles that restart the tree to the grower.
Most edits do not meet: they set different parameters.  So the outcome can be
told for each parameter alone (`Panel.asked`), and only two keys for the same
number, and the angle variance with random mode, have to be told in order.

A slider lets nothing out of its range through but what is not a number, which
no comparison stops (`Panel.admits_slid`).  It keeps the values of its range, and
goes to the nearer bound for the others (`Panel.followsSliders_asked`).

The panel publishes its edits only if they change something.  Equality does not
see the sign of a zero, hence nothing else can be lost that way
(`Panel.sameUpToZero_published`).

Main result: the edits of a frame, published or not, and the toggles after them
make the parameters that the frame asks for (`Panel.sameUpToZero_asked`).
-/
import TurtleTree.Growth.Grower
import TurtleTree.Panel.Basic
import TurtleTree.Proofs.Number.Equality
import TurtleTree.Proofs.Number.Ranking

namespace TurtleTree

/-! ### Parameters that are equal -/

theorem RuleSetId.same_of_beq {a b : RuleSetId} (h : (a == b) = true) : a = b :=
  congrArg RuleSetId.mk (eq_of_beq (a := a.number) h)

namespace Parameters

/-- The parameters are the same, up to the signs of zeros. -/
structure SameUpToZero (p q : Parameters) : Prop where
  ruleSet : p.ruleSet = q.ruleSet
  iterations : p.iterations = q.iterations
  angle : Single.SameUpToZero p.angle q.angle
  branchLength : Single.SameUpToZero p.branchLength q.branchLength
  branchWidth : Single.SameUpToZero p.branchWidth q.branchWidth
  leafLength : Single.SameUpToZero p.leafLength q.leafLength
  leafStartWidth : Single.SameUpToZero p.leafStartWidth q.leafStartWidth
  leafEndWidth : Single.SameUpToZero p.leafEndWidth q.leafEndWidth
  randomMode : p.randomMode = q.randomMode
  angleVariance : p.angleVariance = q.angleVariance
  randomLeafColor : p.randomLeafColor = q.randomLeafColor
  growthObserved : p.growthObserved = q.growthObserved

theorem SameUpToZero.refl (p : Parameters) : p.SameUpToZero p :=
  ⟨rfl, rfl, .refl _, .refl _, .refl _, .refl _, .refl _, .refl _, rfl, rfl, rfl, rfl⟩

/-- Equality of parameters is that of their values. -/
theorem sameUpToZero_of_beq {p q : Parameters} (h : (p == q) = true) : p.SameUpToZero q := by
  have hfields : instBEqParameters.beq p q = true := h
  simp only [instBEqParameters.beq, Bool.and_eq_true] at hfields
  obtain ⟨hrule, hpasses, hangle, hlength, hwidth, hleaf, hstart, hend, hmode, hvariance, hcolor,
    hgrowth⟩ := hfields
  exact ⟨RuleSetId.same_of_beq hrule, eq_of_beq hpasses, Single.sameUpToZero_of_beq hangle,
    Single.sameUpToZero_of_beq hlength, Single.sameUpToZero_of_beq hwidth,
    Single.sameUpToZero_of_beq hleaf, Single.sameUpToZero_of_beq hstart,
    Single.sameUpToZero_of_beq hend, eq_of_beq hmode, eq_of_beq hvariance, eq_of_beq hcolor,
    eq_of_beq hgrowth⟩

/-- The parameters with stepwise growth switched. -/
def withGrowthSwitched (p : Parameters) : Parameters :=
  { p with growthObserved := !p.growthObserved }

end Parameters

namespace Panel

/-! ### What a frame asks for -/

/-- The value that a slider shows: the one it was moved to, brought into its range, or else
the one from before. -/
def slid {α : Type} (bring : α → α) (value : Option α) (current : α) : α :=
  (value.map bring).getD current

/-- Degrees of angle variance that the panel lets a user choose. -/
def clampedVariance (n : Int32) : Int32 :=
  Int32.ofInt (IntegerRange.angleVariance.clamp n.toInt)

/-- The value after a key: one step on if it was pressed. -/
def stepped {α : Type} (pressed : Bool) (step : α → α) (current : α) : α :=
  if pressed then step current else current

/-- The next rule set of the catalogue, or the last one. -/
def raised (id : RuleSetId) : RuleSetId :=
  if id.number < RuleSetId.last.number then ⟨id.number + 1⟩ else id

/-- The previous rule set of the catalogue, or the first one. -/
def lowered (id : RuleSetId) : RuleSetId :=
  if RuleSetId.first.number < id.number then ⟨id.number - 1⟩ else id

/-- A number of passes that the panel lets a user choose. -/
def clampedPasses (n : Nat) : UInt32 := UInt32.ofNat (IntegerRange.iterations.clamp n).toNat

def onePassMore (n : UInt32) : UInt32 := clampedPasses (n.toNat + 1)

def onePassFewer (n : UInt32) : UInt32 := clampedPasses (n.toNat - 1)

/-- The parameters that a frame of input asks for. -/
def asked (input : FrameInput) (p : Parameters) : Parameters where
  ruleSet := stepped input.previousRuleSet lowered (stepped input.nextRuleSet raised p.ruleSet)
  iterations :=
    stepped input.fewerIterations onePassFewer
      (stepped input.moreIterations onePassMore p.iterations)
  angle := slid SliderRange.angle.clamp input.sliders.angle p.angle
  branchLength := slid SliderRange.branchLength.clamp input.sliders.branchLength p.branchLength
  branchWidth := slid SliderRange.branchWidth.clamp input.sliders.branchWidth p.branchWidth
  leafLength := slid SliderRange.leafLength.clamp input.sliders.leafLength p.leafLength
  leafStartWidth := slid SliderRange.leafWidth.clamp input.sliders.leafStartWidth p.leafStartWidth
  leafEndWidth := slid SliderRange.leafWidth.clamp input.sliders.leafEndWidth p.leafEndWidth
  randomMode := p.randomMode ^^ input.toggleRandom
  -- outside random mode the slider is dead, and leaving it takes the variance along
  angleVariance :=
    if !p.randomMode then p.angleVariance
    else if input.toggleRandom then 0
    else slid clampedVariance input.sliders.angleVariance p.angleVariance
  randomLeafColor := p.randomLeafColor ^^ input.toggleLeafColor
  growthObserved := p.growthObserved ^^ input.toggleGrowth

/-! ### Ranges -/

/-- The value lies in the range, or is not a number. -/
def Admits (r : SliderRange) (x : Float32) : Prop := x.isNaN = true ∨ r.low ≤ x ∧ x ≤ r.high

/-- The bounds are numbers in order. -/
def Proper (r : SliderRange) : Prop :=
  r.low.isNaN = false ∧ r.high.isNaN = false ∧ r.low ≤ r.high

instance (r : SliderRange) : Decidable (Proper r) := inferInstanceAs (Decidable (_ ∧ _ ∧ _))

/-- What a slider lets through is in its range. -/
theorem admits_slid {r : SliderRange} (hr : Proper r) {value : Option Float32}
    (hvalue : value.isSome = true) (current : Float32) : Admits r (slid r.clamp value current) := by
  obtain ⟨hlow, hhigh, hordered⟩ := hr
  obtain ⟨x, rfl⟩ := Option.isSome_iff_exists.mp hvalue
  show Admits r (Single.clamp r.low r.high x)
  rcases hx : x.isNaN with - | -
  · exact Or.inr (Single.clamp_within hlow hhigh hordered hx)
  · rw [Single.clamp_of_isNaN _ _ hx]
    exact Or.inl hx

/-- The measures whose sliders were moved are in their ranges, and the angle variance is if its
slider was alive. -/
structure InRanges (e : SliderEdits) (alive : Bool) (p : Parameters) : Prop where
  angle : e.angle.isSome = true → Admits SliderRange.angle p.angle
  branchLength : e.branchLength.isSome = true → Admits SliderRange.branchLength p.branchLength
  branchWidth : e.branchWidth.isSome = true → Admits SliderRange.branchWidth p.branchWidth
  leafLength : e.leafLength.isSome = true → Admits SliderRange.leafLength p.leafLength
  leafStartWidth : e.leafStartWidth.isSome = true → Admits SliderRange.leafWidth p.leafStartWidth
  leafEndWidth : e.leafEndWidth.isSome = true → Admits SliderRange.leafWidth p.leafEndWidth
  angleVariance : e.angleVariance.isSome = true → alive = true →
    IntegerRange.angleVariance.low ≤ p.angleVariance.toInt ∧
      p.angleVariance.toInt ≤ IntegerRange.angleVariance.high

theorem clamp_within {r : IntegerRange} (hordered : r.low ≤ r.high) (n : Int) :
    r.low ≤ r.clamp n ∧ r.clamp n ≤ r.high := by
  rw [IntegerRange.clamp]
  omega

/-- Degrees have room in a word. -/
theorem toInt_clampedVariance (n : Int32) :
    (clampedVariance n).toInt = IntegerRange.angleVariance.clamp n.toInt := by
  obtain ⟨hlow, hhigh⟩ := clamp_within (r := IntegerRange.angleVariance) (by decide) n.toInt
  exact Int32.toInt_ofInt_of_le (Int.le_trans (by decide) hlow)
    (Int.lt_of_le_of_lt hhigh (by decide))

theorem clampedVariance_within (n : Int32) :
    IntegerRange.angleVariance.low ≤ (clampedVariance n).toInt ∧
      (clampedVariance n).toInt ≤ IntegerRange.angleVariance.high := by
  rw [toInt_clampedVariance]
  exact clamp_within (by decide) n.toInt

/-- In random mode the slider of the angle variance is alive. -/
theorem angleVariance_asked {input : FrameInput} {p : Parameters}
    (h : (p.randomMode && !input.toggleRandom) = true) :
    (asked input p).angleVariance
      = slid clampedVariance input.sliders.angleVariance p.angleVariance := by
  obtain ⟨hmode, hkept⟩ := Bool.and_eq_true_iff.mp h
  rw [asked, hmode, (Bool.not_eq_true' _).mp hkept]
  rfl

/-- A frame asks for nothing out of range. -/
theorem inRanges_asked (input : FrameInput) (p : Parameters) :
    InRanges input.sliders (p.randomMode && !input.toggleRandom) (asked input p) where
  angle h := admits_slid (by decide +kernel) h _
  branchLength h := admits_slid (by decide +kernel) h _
  branchWidth h := admits_slid (by decide +kernel) h _
  leafLength h := admits_slid (by decide +kernel) h _
  leafStartWidth h := admits_slid (by decide +kernel) h _
  leafEndWidth h := admits_slid (by decide +kernel) h _
  angleVariance h halive := by
    obtain ⟨n, hn⟩ := Option.isSome_iff_exists.mp h
    rw [angleVariance_asked halive, hn]
    exact clampedVariance_within n

/-! ### What sliders show -/

/-- What a value becomes in a range: it is kept inside, and outside it goes to the bound that
it has passed. -/
def Nearest {α : Type} [LT α] (low high x y : α) : Prop :=
  (x < low → y = low) ∧ (high < x → y = high) ∧ (¬ x < low → ¬ high < x → y = x)

/-- A slider shows the value of its range for what it was moved to, and without a move the value
from before. -/
def Shows {α : Type} [LT α] (low high : α) (moved : Option α) (before after : α) : Prop :=
  match moved with
  | none => after = before
  | some x => Nearest low high x after

/-- The measures are what the sliders show after their moves from `p`, and the angle variance is
if its slider was alive. -/
structure FollowsSliders (e : SliderEdits) (alive : Bool) (p q : Parameters) : Prop where
  angle : Shows SliderRange.angle.low SliderRange.angle.high e.angle p.angle q.angle
  branchLength : Shows SliderRange.branchLength.low SliderRange.branchLength.high e.branchLength
    p.branchLength q.branchLength
  branchWidth : Shows SliderRange.branchWidth.low SliderRange.branchWidth.high e.branchWidth
    p.branchWidth q.branchWidth
  leafLength : Shows SliderRange.leafLength.low SliderRange.leafLength.high e.leafLength
    p.leafLength q.leafLength
  leafStartWidth : Shows SliderRange.leafWidth.low SliderRange.leafWidth.high e.leafStartWidth
    p.leafStartWidth q.leafStartWidth
  leafEndWidth : Shows SliderRange.leafWidth.low SliderRange.leafWidth.high e.leafEndWidth
    p.leafEndWidth q.leafEndWidth
  angleVariance : alive = true →
    Shows IntegerRange.angleVariance.low IntegerRange.angleVariance.high
      (e.angleVariance.map Int32.toInt) p.angleVariance.toInt q.angleVariance.toInt

/-- **Clamping** goes to the nearer bound.  What is not a number has passed neither. -/
theorem nearest_clamp {r : SliderRange} (hordered : r.low ≤ r.high) (x : Float32) :
    Nearest r.low r.high x (r.clamp x) := by
  rw [SliderRange.clamp, Single.clamp]
  refine ⟨fun hbelow => if_pos hbelow, fun habove => ?_, fun hlow hhigh => ?_⟩
  · have hlow : ¬ x < r.low :=
      Single.not_lt_of_le (Single.le_trans hordered (Single.le_of_lt habove))
    rw [if_neg hlow, if_pos habove]
  · rw [if_neg hlow, if_neg hhigh]

theorem nearest_clampedVariance (n : Int32) :
    Nearest IntegerRange.angleVariance.low IntegerRange.angleVariance.high n.toInt
      (clampedVariance n).toInt := by
  rw [toInt_clampedVariance, IntegerRange.clamp]
  have hordered : IntegerRange.angleVariance.low ≤ IntegerRange.angleVariance.high := by decide
  refine ⟨fun hbelow => ?_, fun habove => ?_, fun hlow hhigh => ?_⟩ <;> omega

theorem shows_slid {r : SliderRange} (hordered : r.low ≤ r.high) (value : Option Float32)
    (current : Float32) : Shows r.low r.high value current (slid r.clamp value current) := by
  rcases value with - | x
  · exact rfl
  · exact nearest_clamp hordered x

/-- A frame asks for what its sliders show. -/
theorem followsSliders_asked (input : FrameInput) (p : Parameters) :
    FollowsSliders input.sliders (p.randomMode && !input.toggleRandom) p (asked input p) where
  angle := shows_slid (by decide +kernel) _ _
  branchLength := shows_slid (by decide +kernel) _ _
  branchWidth := shows_slid (by decide +kernel) _ _
  leafLength := shows_slid (by decide +kernel) _ _
  leafStartWidth := shows_slid (by decide +kernel) _ _
  leafEndWidth := shows_slid (by decide +kernel) _ _
  angleVariance halive := by
    rw [angleVariance_asked halive]
    rcases input.sliders.angleVariance with - | n
    · exact rfl
    · exact nearest_clampedVariance n

/-! ### Edits by parameter -/

/-- A slider acts on the parameter that it shows. -/
theorem setIfMoved_eq {α : Type} (bring : α → α) (get : Parameters → α)
    (put : Parameters → α → Parameters) (hput : ∀ p, put p (get p) = p) (value : Option α)
    (p : Parameters) :
    setIfMoved (fun x q => put q (bring x)) value p = put p (slid bring value (get p)) := by
  rcases value with - | x
  · exact (hput p).symm
  · rfl

/-- Sliders act on parameters of their own. -/
theorem applySliders_eq (e : SliderEdits) (p : Parameters) :
    applySliders e p = { p with
      angle := slid SliderRange.angle.clamp e.angle p.angle
      branchLength := slid SliderRange.branchLength.clamp e.branchLength p.branchLength
      branchWidth := slid SliderRange.branchWidth.clamp e.branchWidth p.branchWidth
      leafLength := slid SliderRange.leafLength.clamp e.leafLength p.leafLength
      leafStartWidth := slid SliderRange.leafWidth.clamp e.leafStartWidth p.leafStartWidth
      leafEndWidth := slid SliderRange.leafWidth.clamp e.leafEndWidth p.leafEndWidth
      angleVariance :=
        if p.randomMode then slid clampedVariance e.angleVariance p.angleVariance
        else p.angleVariance } := by
  have hangle : ∀ v q, setIfMoved setAngle v q
      = { q with angle := slid SliderRange.angle.clamp v q.angle } :=
    setIfMoved_eq _ (·.angle) (fun q x => { q with angle := x }) fun _ => rfl
  have hlength : ∀ v q, setIfMoved setBranchLength v q
      = { q with branchLength := slid SliderRange.branchLength.clamp v q.branchLength } :=
    setIfMoved_eq _ (·.branchLength) (fun q x => { q with branchLength := x }) fun _ => rfl
  have hwidth : ∀ v q, setIfMoved setBranchWidth v q
      = { q with branchWidth := slid SliderRange.branchWidth.clamp v q.branchWidth } :=
    setIfMoved_eq _ (·.branchWidth) (fun q x => { q with branchWidth := x }) fun _ => rfl
  have hleaf : ∀ v q, setIfMoved setLeafLength v q
      = { q with leafLength := slid SliderRange.leafLength.clamp v q.leafLength } :=
    setIfMoved_eq _ (·.leafLength) (fun q x => { q with leafLength := x }) fun _ => rfl
  have hstart : ∀ v q, setIfMoved setLeafStartWidth v q
      = { q with leafStartWidth := slid SliderRange.leafWidth.clamp v q.leafStartWidth } :=
    setIfMoved_eq _ (·.leafStartWidth) (fun q x => { q with leafStartWidth := x }) fun _ => rfl
  have hend : ∀ v q, setIfMoved setLeafEndWidth v q
      = { q with leafEndWidth := slid SliderRange.leafWidth.clamp v q.leafEndWidth } :=
    setIfMoved_eq _ (·.leafEndWidth) (fun q x => { q with leafEndWidth := x }) fun _ => rfl
  have hvariance : ∀ v q, setIfMoved setAngleVariance v q = { q with
      angleVariance := if q.randomMode then slid clampedVariance v q.angleVariance
        else q.angleVariance } := by
    intro v q
    rcases v with - | n
    · show q = { q with angleVariance := if q.randomMode then q.angleVariance else q.angleVariance }
      rw [ite_self]
    · obtain ⟨_, _, _, _, _, _, _, _, mode, _, _, _⟩ := q
      rcases mode with - | - <;> rfl
  simp only [applySliders, hangle, hlength, hwidth, hleaf, hstart, hend, hvariance]

/-- A key acts on the parameter that it steps. -/
theorem editIf_eq {α : Type} (step : α → α) (get : Parameters → α)
    (put : Parameters → α → Parameters) (hput : ∀ p, put p (get p) = p) (pressed : Bool)
    (p : Parameters) :
    editIf pressed (fun q => put q (step (get q))) p
      = put p (stepped pressed step (get p)) := by
  cases pressed
  · exact (hput p).symm
  · rfl

theorem nextRuleSet_eq : nextRuleSet = fun p => { p with ruleSet := raised p.ruleSet } := by
  funext p
  simp only [nextRuleSet, raised]
  split <;> rfl

theorem previousRuleSet_eq :
    previousRuleSet = fun p => { p with ruleSet := lowered p.ruleSet } := by
  funext p
  simp only [previousRuleSet, lowered]
  split <;> rfl

/-- The keys act on other parameters than the sliders, and in order where two of them act on
the same. -/
theorem edited_eq (input : FrameInput) (p : Parameters) :
    edited input p = { applySliders input.sliders p with
      ruleSet := stepped input.previousRuleSet lowered (stepped input.nextRuleSet raised p.ruleSet)
      iterations :=
        stepped input.fewerIterations onePassFewer
          (stepped input.moreIterations onePassMore p.iterations)
      randomLeafColor := stepped input.toggleLeafColor not p.randomLeafColor } := by
  have hnext := editIf_eq raised (·.ruleSet) (fun q x => { q with ruleSet := x }) fun _ => rfl
  have hprevious := editIf_eq lowered (·.ruleSet) (fun q x => { q with ruleSet := x }) fun _ => rfl
  have hmore : ∀ b q, editIf b moreIterations q = { q with
      iterations := stepped b onePassMore q.iterations } :=
    editIf_eq onePassMore (·.iterations) (fun q x => { q with iterations := x }) fun _ => rfl
  have hfewer : ∀ b q, editIf b fewerIterations q = { q with
      iterations := stepped b onePassFewer q.iterations } :=
    editIf_eq onePassFewer (·.iterations) (fun q x => { q with iterations := x }) fun _ => rfl
  have hcolor : ∀ b q, editIf b toggleLeafColor q = { q with
      randomLeafColor := stepped b not q.randomLeafColor } :=
    editIf_eq not (·.randomLeafColor) (fun q x => { q with randomLeafColor := x }) fun _ => rfl
  simp only [edited, nextRuleSet_eq, previousRuleSet_eq, hnext, hprevious, hmore, hfewer, hcolor,
    applySliders_eq]

/-- The toggles of a frame, after its edits. -/
def switched (input : FrameInput) (p : Parameters) : Parameters :=
  p |> editIf input.toggleGrowth Parameters.withGrowthSwitched
    |> editIf input.toggleRandom Grower.withRandomSwitched

/-- The toggles act on the flags, and leaving random mode on the variance. -/
theorem switched_eq (input : FrameInput) (p : Parameters) :
    switched input p = { p with
      randomMode := p.randomMode ^^ input.toggleRandom
      angleVariance := if p.randomMode && input.toggleRandom then 0 else p.angleVariance
      growthObserved := p.growthObserved ^^ input.toggleGrowth } := by
  obtain ⟨_, _, _, _, _, _, _, _, mode, _, _, growth⟩ := p
  rcases hgrowth : input.toggleGrowth with - | - <;>
    rcases hrandom : input.toggleRandom with - | - <;>
    cases mode <;>
    simp [switched, editIf, Parameters.withGrowthSwitched, Grower.withRandomSwitched, hgrowth,
      hrandom]

/-- Edits and toggles, one after the other, are what the frame asks for. -/
theorem asked_eq (input : FrameInput) (p : Parameters) :
    asked input p = switched input (edited input p) := by
  have hcolor : stepped input.toggleLeafColor not p.randomLeafColor
      = (p.randomLeafColor ^^ input.toggleLeafColor) := by
    cases input.toggleLeafColor <;> simp [stepped]
  rw [switched_eq, edited_eq, applySliders_eq, asked, hcolor]
  cases p.randomMode <;> cases input.toggleRandom <;> rfl

/-! ### Publishing -/

/-- The parameters that the grower has after the edits of a frame: edits without an effect
are not published. -/
def published (input : FrameInput) (p : Parameters) : Parameters :=
  if edited input p != p then edited input p else p

theorem sameUpToZero_published (input : FrameInput) (p : Parameters) :
    (edited input p).SameUpToZero (published input p) := by
  rw [published]
  split
  · exact .refl _
  · next h =>
    refine Parameters.sameUpToZero_of_beq ?_
    simpa [bne] using h

/-- The toggles do not look at measures. -/
theorem sameUpToZero_switched {p q : Parameters} (h : p.SameUpToZero q) (input : FrameInput) :
    (switched input p).SameUpToZero (switched input q) := by
  rw [switched_eq, switched_eq, h.randomMode, h.angleVariance, h.growthObserved]
  exact { h with randomMode := rfl, angleVariance := rfl, growthObserved := rfl }

/-- **A frame gets what it asks for**, published or not, up to the signs of zeros. -/
theorem sameUpToZero_asked (input : FrameInput) (p : Parameters) :
    (asked input p).SameUpToZero (switched input (published input p)) := by
  rw [asked_eq]
  exact sameUpToZero_switched (sameUpToZero_published input p) input

end Panel

end TurtleTree
