/-
TurtleTree/Proofs/Viewer/StepKeys.lean

The keys that step through rule sets and numbers of passes.

A key steps one number of the parameters and leaves the others alone
(`Panel.edited_alone`).  A rule set at the end of the catalogue or beyond it is not led
farther away; a number of passes is stepped and then brought into the range of the panel.
In natural numbers these are four short formulas (`StepKey.toNat_step`), from which the
laws of a step follow.

A tree may be asked for without any pass, and the range of the panel begins with one.
There the key for fewer passes adds one, and this is the only step against the direction
of its key (`StepKey.ahead_step_iff`, `GrowthSession.fewerPasses_adds`).

Main result: what one more frame with such a key does to the panel, after any frames
(`GrowthSession.stepKeys_frames`).
-/
import TurtleTree.Proofs.Program.PassLimit

namespace TurtleTree

/-- A key that steps the rule set or the number of passes. -/
inductive StepKey where
  | nextRuleSet
  | previousRuleSet
  | morePasses
  | fewerPasses
deriving DecidableEq

namespace StepKey

/-! ### Keys -/

/-- The input of a frame in which only this key is pressed. -/
def alone : StepKey → FrameInput
  | nextRuleSet => { FrameInput.idle with nextRuleSet := true }
  | previousRuleSet => { FrameInput.idle with previousRuleSet := true }
  | morePasses => { FrameInput.idle with moreIterations := true }
  | fewerPasses => { FrameInput.idle with fewerIterations := true }

def opposite : StepKey → StepKey
  | nextRuleSet => previousRuleSet
  | previousRuleSet => nextRuleSet
  | morePasses => fewerPasses
  | fewerPasses => morePasses

/-- The number that the key steps. -/
def number : StepKey → Parameters → UInt32
  | nextRuleSet, p | previousRuleSet, p => p.ruleSet.number
  | morePasses, p | fewerPasses, p => p.iterations

/-- The parameters with another number in its place. -/
def withNumber : StepKey → Parameters → UInt32 → Parameters
  | nextRuleSet, p, n | previousRuleSet, p, n => { p with ruleSet := ⟨n⟩ }
  | morePasses, p, n | fewerPasses, p, n => { p with iterations := n }

/-- The second number is not behind the first in the direction of the key. -/
def Ahead : StepKey → UInt32 → UInt32 → Prop
  | nextRuleSet, m, n | morePasses, m, n => m ≤ n
  | previousRuleSet, m, n | fewerPasses, m, n => n ≤ m

/-- The panel offers the number. -/
def InRange : StepKey → UInt32 → Prop
  | nextRuleSet, n | previousRuleSet, n => RuleSetId.Catalogued ⟨n⟩
  | morePasses, n | fewerPasses, n => Parameters.Choosable n

/-- The number of the range at which the key stops. -/
def stop : StepKey → UInt32
  | nextRuleSet => RuleSetId.last.number
  | previousRuleSet => RuleSetId.first.number
  | morePasses => Parameters.maxIterations
  | fewerPasses => 1

/-- A task may ask for the number: for any rule set, and for passes up to the limit. -/
def Askable : StepKey → UInt32 → Prop
  | nextRuleSet, _ | previousRuleSet, _ => True
  | morePasses, n | fewerPasses, n => n ≤ Parameters.maxIterations

/-- What the key makes of its number. -/
def step : StepKey → UInt32 → UInt32
  | nextRuleSet, n => (Panel.raised ⟨n⟩).number
  | previousRuleSet, n => (Panel.lowered ⟨n⟩).number
  | morePasses, n => Panel.onePassMore n
  | fewerPasses, n => Panel.onePassFewer n

/-! ### Steps -/

variable {key : StepKey} {n : UInt32}

theorem toNat_raised (n : UInt32) :
    (Panel.raised ⟨n⟩).number.toNat = if n.toNat < 9 then n.toNat + 1 else n.toNat := by
  have hlast : n < RuleSetId.last.number ↔ n.toNat < 9 := UInt32.lt_iff_toNat_lt
  simp only [Panel.raised, hlast]
  split
  · next h =>
    rw [UInt32.toNat_add, UInt32.toNat_one]
    omega
  · rfl

theorem toNat_lowered (n : UInt32) :
    (Panel.lowered ⟨n⟩).number.toNat = if 1 < n.toNat then n.toNat - 1 else n.toNat := by
  have hfirst : RuleSetId.first.number < n ↔ 1 < n.toNat := UInt32.lt_iff_toNat_lt
  simp only [Panel.lowered, hfirst]
  split
  · next h =>
    rw [UInt32.toNat_sub_of_le _ _ (UInt32.le_iff_toNat_le.mpr (by rw [UInt32.toNat_one]; omega)),
      UInt32.toNat_one]
  · rfl

theorem toNat_onePassMore (h : n ≤ Parameters.maxIterations) :
    (Panel.onePassMore n).toNat = min 7 (n.toNat + 1) := by
  have hle : n.toNat ≤ 7 := h
  rw [Panel.onePassMore, Panel.toNat_clampedPasses]
  omega

theorem toNat_onePassFewer (h : n ≤ Parameters.maxIterations) :
    (Panel.onePassFewer n).toNat = max 1 (n.toNat - 1) := by
  have hle : n.toNat ≤ 7 := h
  rw [Panel.onePassFewer, Panel.toNat_clampedPasses]
  omega

/-- **A step** in natural numbers. -/
theorem toNat_step (h : key.Askable n) : (key.step n).toNat =
    match key with
    | nextRuleSet => if n.toNat < 9 then n.toNat + 1 else n.toNat
    | previousRuleSet => if 1 < n.toNat then n.toNat - 1 else n.toNat
    | morePasses => min 7 (n.toNat + 1)
    | fewerPasses => max 1 (n.toNat - 1) := by
  cases key with
  | nextRuleSet => exact toNat_raised n
  | previousRuleSet => exact toNat_lowered n
  | morePasses => exact toNat_onePassMore h
  | fewerPasses => exact toNat_onePassFewer h

/-- The range of a key in natural numbers. -/
theorem inRange_iff : key.InRange n ↔
    1 ≤ n.toNat ∧ n.toNat ≤
      match key with
      | nextRuleSet | previousRuleSet => 9
      | morePasses | fewerPasses => 7 := by
  cases key <;> exact and_congr UInt32.le_iff_toNat_le UInt32.le_iff_toNat_le

theorem ahead_iff {m : UInt32} : key.Ahead m n ↔
    match key with
    | nextRuleSet | morePasses => m.toNat ≤ n.toNat
    | previousRuleSet | fewerPasses => n.toNat ≤ m.toNat := by
  cases key <;> exact UInt32.le_iff_toNat_le

theorem askable_iff : key.Askable n ↔
    match key with
    | nextRuleSet | previousRuleSet => True
    | morePasses | fewerPasses => n.toNat ≤ 7 := by
  cases key <;> exact Iff.rfl

theorem toNat_stop : key.stop.toNat =
    match key with
    | nextRuleSet => 9
    | morePasses => 7
    | previousRuleSet | fewerPasses => 1 := by
  cases key <;> rfl

/-! ### Laws of a step -/

theorem askable_of_inRange (h : key.InRange n) : key.Askable n := by
  rw [inRange_iff] at h
  rw [askable_iff]
  cases key <;> grind

/-- **A key goes its own way**, unless it has to add the pass that the range begins with. -/
theorem ahead_step_iff (h : key.Askable n) :
    key.Ahead n (key.step n) ↔ ¬ (key = fewerPasses ∧ n = 0) := by
  rw [ahead_iff, toNat_step h, ← UInt32.toNat_inj, UInt32.toNat_zero]
  rw [askable_iff] at h
  cases key <;> grind

/-- A step leads to a neighbour, if it leads anywhere. -/
theorem step_near (h : key.Askable n) :
    (key.step n).toNat ≤ n.toNat + 1 ∧ n.toNat ≤ (key.step n).toNat + 1 := by
  rw [toNat_step h]
  rw [askable_iff] at h
  cases key <;> grind

/-- Within the range a key steps on until it stops. -/
theorem step_ne_iff (h : key.InRange n) : key.step n ≠ n ↔ n ≠ key.stop := by
  rw [ne_eq, ne_eq, ← UInt32.toNat_inj, ← UInt32.toNat_inj, toNat_step (askable_of_inRange h),
    toNat_stop]
  rw [inRange_iff] at h
  cases key <;> grind

/-- A step stays in the range, which is also that of the opposite key. -/
theorem inRange_step (h : key.InRange n) : key.opposite.InRange (key.step n) := by
  rw [inRange_iff, toNat_step (askable_of_inRange h)]
  rw [inRange_iff] at h
  cases key <;> simp only [opposite] <;> grind

/-- **The opposite key** undoes a step within the range. -/
theorem opposite_step (h : key.InRange n) (hstep : key.step n ≠ n) :
    key.opposite.step (key.step n) = n := by
  rw [ne_eq, ← UInt32.toNat_inj, toNat_step (askable_of_inRange h)] at hstep
  rw [← UInt32.toNat_inj, toNat_step (askable_of_inRange (inRange_step h)),
    toNat_step (askable_of_inRange h)]
  rw [inRange_iff] at h
  cases key <;> simp only [opposite] <;> grind

/-! ### Parameters -/

section Numbers

variable (key) (p : Parameters)

theorem number_withNumber (n : UInt32) : key.number (key.withNumber p n) = n := by
  cases key <;> rfl

theorem withNumber_number : key.withNumber p (key.number p) = p := by
  cases key <;> rfl

/-- Both keys of a pair step the same number. -/
theorem number_opposite : key.opposite.number p = key.number p := by
  cases key <;> rfl

theorem withNumber_opposite (m n : UInt32) :
    key.opposite.withNumber (key.withNumber p m) n = key.withNumber p n := by
  cases key <;> rfl

theorem number_eq_of_sameUpToZero {q : Parameters} (h : p.SameUpToZero q) :
    key.number p = key.number q := by
  cases key with
  | nextRuleSet => exact congrArg RuleSetId.number h.ruleSet
  | previousRuleSet => exact congrArg RuleSetId.number h.ruleSet
  | morePasses => exact h.iterations
  | fewerPasses => exact h.iterations

end Numbers

end StepKey

/-! ### Frames -/

namespace Panel

variable (key : StepKey) (p : Parameters)

/-- A key that is pressed alone steps its number. -/
theorem edited_alone :
    edited key.alone p = key.withNumber p (key.step (key.number p)) := by
  have hidle : applySliders key.alone.sliders p = p := by
    cases key <;> rfl
  rw [edited_eq, hidle]
  cases key <;> rfl

/-- A step that is not published is none. -/
theorem published_alone :
    published key.alone p = key.withNumber p (key.step (key.number p)) := by
  rw [← edited_alone, published]
  split
  · rfl
  · next h =>
    have hsame : (edited key.alone p).SameUpToZero p :=
      Parameters.sameUpToZero_of_beq (by simpa [bne] using h)
    have hnumber := key.number_eq_of_sameUpToZero _ hsame
    rw [edited_alone, key.number_withNumber] at hnumber
    rw [edited_alone, hnumber, key.withNumber_number]

theorem switched_alone : switched key.alone p = p := by
  cases key <;> rfl

end Panel

namespace GrowthSession

variable {s : GrowthSession}

theorem InStep.panel_frame_alone (h : s.InStep) (elapsed : Duration) (key : StepKey) :
    (s.frame elapsed key.alone).2.panel
      = key.withNumber s.panel (key.step (key.number s.panel)) := by
  rw [h.panel_frame, Panel.switched_alone, Panel.published_alone]

/-- A session that keeps to the limit holds numbers that can be asked for. -/
theorem Limited.askable (h : s.Limited) (key : StepKey) : key.Askable (key.number s.panel) := by
  cases key with
  | nextRuleSet => trivial
  | previousRuleSet => trivial
  | morePasses => exact h.panel
  | fewerPasses => exact h.panel

/-- **The step keys.**  After any frames of a session that was opened with any rule set and
supported passes, a frame in which only such a key is pressed

* changes nothing but the number of the key, in the panel and then in the grower;
* takes the number in the direction of the key, with one exception: the key for fewer passes
  takes no passes to one;
* takes it to a neighbour or leaves it;
* changes a number of the range exactly if it is not the one at which the key stops, and then
  the opposite key in the next frame brings all parameters back. -/
theorem stepKeys_frames (config : GrowthConfig) {p : Parameters}
    (hp : p.iterations ≤ Parameters.maxIterations) (fs : List (Duration × FrameInput))
    (key : StepKey) (elapsed later : Duration) :
    let s := (opened (Grower.begin config p (some SceneStore.empty))).frames fs
    let next := (s.frame elapsed key.alone).2
    let before := key.number s.panel
    let after := key.number next.panel
    (Panel.handle key.alone s.panel).1 = key.withNumber s.panel after ∧
    next.panel = key.withNumber s.panel after ∧
    next.grower.parameters = key.withNumber s.panel after ∧
    (key.Ahead before after ↔ ¬ (key = .fewerPasses ∧ before = 0)) ∧
    (after.toNat ≤ before.toNat + 1 ∧ before.toNat ≤ after.toNat + 1) ∧
    (key.InRange before →
      (after ≠ before ↔ before ≠ key.stop) ∧
      (after ≠ before → (next.frame later key.opposite.alone).2.panel = s.panel)) := by
  intro s next before after
  have hstep : s.InStep := (inStep_opened _).frames fs
  have hlimited : s.Limited := (limited_opened (Grower.limited_begin hp)).frames fs
  have haskable : key.Askable before := hlimited.askable key
  have hnext : next.panel = key.withNumber s.panel (key.step before) :=
    hstep.panel_frame_alone elapsed key
  have hafter : after = key.step before := by
    show key.number next.panel = _
    rw [hnext, key.number_withNumber]
  rw [hafter]
  refine ⟨Panel.edited_alone key s.panel, hnext, hnext, StepKey.ahead_step_iff haskable,
    StepKey.step_near haskable, fun hrange => ⟨StepKey.step_ne_iff hrange, fun hne => ?_⟩⟩
  have hback := (inStep_frame s elapsed key.alone).panel_frame_alone later key.opposite
  rw [hback, key.number_opposite]
  show key.opposite.withNumber next.panel (key.opposite.step (key.number next.panel)) = _
  rw [hnext, key.number_withNumber, key.withNumber_opposite, StepKey.opposite_step hrange hne,
    key.withNumber_number]

/-- A rule set beyond the catalogue is left alone by the keys for passes, which step down
from the limit and up to it. -/
theorem stepKeys_frames_uncatalogued :
    let p := { Parameters.standard with ruleSet := ⟨12⟩, iterations := 7 }
    let s := (opened (Grower.begin (GrowthConfig.ofSeed 7) p (some SceneStore.empty))).frames
      [(Duration.zero, StepKey.fewerPasses.alone)]
    let next := (s.frame Duration.zero StepKey.morePasses.alone).2
    p.iterations ≤ Parameters.maxIterations ∧ s.panel = { p with iterations := 6 } ∧
      next.panel = p ∧
      (next.frame Duration.zero StepKey.fewerPasses.alone).2.panel = s.panel := by
  intro p s next
  have hp : p.iterations ≤ Parameters.maxIterations := by decide
  have hpanel : s.panel = { p with iterations := 6 } := by
    have hstep := (inStep_opened (Grower.begin (GrowthConfig.ofSeed 7) p
      (some SceneStore.empty))).panel_frame_alone Duration.zero .fewerPasses
    rw [panel_opened] at hstep
    exact hstep
  obtain ⟨-, hnext, -, hahead, hnear, hrange⟩ := stepKeys_frames (GrowthConfig.ofSeed 7) hp
    [(Duration.zero, StepKey.fewerPasses.alone)] .morePasses Duration.zero Duration.zero
  have hbefore : StepKey.morePasses.number s.panel = 6 := congrArg Parameters.iterations hpanel
  rw [hbefore] at hahead hnear hrange
  obtain ⟨hmoves, hback⟩ := hrange ⟨by decide, by decide⟩
  have hne : StepKey.morePasses.number next.panel ≠ 6 := hmoves.mpr (by decide)
  have hafter : StepKey.morePasses.number next.panel = 7 := by
    have hle : 6 ≤ (StepKey.morePasses.number next.panel).toNat :=
      UInt32.le_iff_toNat_le.mp (hahead.mpr (by decide))
    have hge : (StepKey.morePasses.number next.panel).toNat ≤ 7 := hnear.1
    rw [ne_eq, ← UInt32.toNat_inj] at hne
    rw [← UInt32.toNat_inj]
    exact Nat.le_antisymm hge (Nat.lt_of_le_of_ne hle (Ne.symm hne))
  refine ⟨hp, hpanel, ?_, hback hne⟩
  rw [hnext, hafter, hpanel]
  rfl

/-- The key for fewer passes adds one to a tree that was asked for without passes. -/
theorem fewerPasses_adds :
    let p := { Parameters.standard with iterations := 0 }
    let s := opened (Grower.begin (GrowthConfig.ofSeed 7) p (some SceneStore.empty))
    let next := (s.frame Duration.zero StepKey.fewerPasses.alone).2
    p.iterations ≤ Parameters.maxIterations ∧ s.panel.iterations = 0 ∧
      next.panel.iterations = 1 ∧ ¬ next.panel.iterations ≤ s.panel.iterations := by
  intro p s next
  have hpanel : s.panel = p := panel_opened _
  have hnext : next.panel
      = StepKey.fewerPasses.withNumber s.panel (StepKey.fewerPasses.step s.panel.iterations) :=
    (inStep_opened _).panel_frame_alone Duration.zero .fewerPasses
  rw [hpanel] at hnext ⊢
  rw [hnext]
  decide

end GrowthSession

end TurtleTree
