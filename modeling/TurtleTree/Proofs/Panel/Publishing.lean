/-
TurtleTree/Proofs/Panel/Publishing.lean

What a frame of input publishes.

The commands of a frame are an update, if the parameters after the edits are not equal
to those before, and then the requests among three in a fixed order
(`Panel.handle_commands`).  Edits that cancel out, or that a range brings back, are
not published.

Equality is that of numbers, hence the update is there exactly if a parameter changed,
or if a measure is not a number (`Panel.publishes_edits`).  In the latter case even a
frame in which nothing is asked for publishes parameters (`Panel.publishes_unedited`).
-/
import TurtleTree.Proofs.Parameters.Comparison

namespace TurtleTree

theorem Parameters.SameUpToZero.defined_iff {p q : Parameters} (h : p.SameUpToZero q) :
    p.Defined ↔ q.Defined := by
  rw [Parameters.defined_iff, Parameters.defined_iff, h.angle.isNaN_eq, h.branchLength.isNaN_eq,
    h.branchWidth.isNaN_eq, h.leafLength.isNaN_eq, h.leafStartWidth.isNaN_eq,
    h.leafEndWidth.isNaN_eq]

/-- The frame asks for the command, apart from what it edits.  A tree gets its leaf colours
when it begins to grow. -/
def FrameInput.asks (input : FrameInput) : Command → Bool
  | .toggleGrowth => input.toggleGrowth
  | .toggleRandom => input.toggleRandom
  | .regenerate => input.regenerate || input.toggleLeafColor
  | .update _ => false
  | .tick _ => false

namespace Panel

/-- The requests of a frame, in order. -/
def requested (input : FrameInput) : List Command :=
  [.toggleGrowth, .toggleRandom, .regenerate].filter input.asks

/-- The edits of a frame change the parameters, or these cannot be compared. -/
def Publishes (input : FrameInput) (p : Parameters) : Prop :=
  ¬ (edited input p).SameUpToZero p ∨ ¬ p.Defined

/-- What is published is what is not equal. -/
theorem publishes_iff {input : FrameInput} {p : Parameters} :
    Publishes input p ↔ (edited input p != p) = true := by
  rw [bne, Bool.not_eq_true', ← Bool.not_eq_true, Parameters.beq_iff, not_and_or, Publishes]
  refine or_congr_right' fun hsame => not_congr ?_
  exact (not_not.mp hsame).defined_iff.symm

/-- **The commands of a frame**, in order. -/
theorem handle_commands (input : FrameInput) (p : Parameters) :
    (handle input p).2
      = (if edited input p != p then [.update (edited input p)] else []) ++ requested input := by
  have hcons : ∀ c cs, List.filter input.asks (c :: cs)
      = (if input.asks c then [c] else []) ++ List.filter input.asks cs := by
    intro c cs
    rw [List.filter_cons]
    split <;> rfl
  simp only [handle, commands, requested, hcons, List.filter_nil, List.append_nil,
    List.append_assoc]
  rfl

/-- No request is an update. -/
theorem ne_update_of_mem_requested {input : FrameInput} {c : Command}
    (h : c ∈ requested input) (p : Parameters) : c ≠ .update p := by
  rintro rfl
  exact Bool.noConfusion (List.mem_filter.mp h).2

/-- Without input nothing is edited. -/
theorem edited_idle (p : Parameters) : edited .idle p = p := rfl

/-- **A frame publishes what it changes.**

* The first command is an update exactly if the edits change some parameter, the signs of
  zeros apart, or some measure was not a number before.
* The update has the parameters of the panel after all edits.  Behind it, or alone, stand the
  toggles and the regeneration that the frame asks for, each of them at most once, growth
  before random mode and the regeneration last.
* Between parameters whose measures are numbers, no change is no update.
* A frame in which nothing is asked for leaves the panel unchanged, and has no command exactly
  if the measures are numbers. -/
theorem publishes_edits (input : FrameInput) (p : Parameters) :
    let q := (handle input p).1
    let cs := (handle input p).2
    let requested := [Command.toggleGrowth, .toggleRandom, .regenerate].filter input.asks
    let published := ¬ q.SameUpToZero p ∨ ¬ p.Defined
    ((∃ r rest, cs = .update r :: rest) ↔ published) ∧
    (published → cs = .update q :: requested) ∧ (¬ published → cs = requested) ∧
    (p.Defined → ((∃ r rest, cs = .update r :: rest) ↔ ¬ q.SameUpToZero p)) ∧
    (handle .idle p).1 = p ∧ ((handle .idle p).2 = [] ↔ p.Defined) := by
  intro q cs requested published
  have hpublished : published → cs = .update q :: requested := fun h =>
    (handle_commands input p).trans (by rw [if_pos (publishes_iff.mp h)]; rfl)
  have hsilent : ¬ published → cs = requested := fun h =>
    (handle_commands input p).trans (by rw [if_neg (publishes_iff.not.mp h)]; rfl)
  have hfirst : (∃ r rest, cs = .update r :: rest) ↔ published := by
    refine ⟨fun ⟨r, rest, hcs⟩ => ?_, fun h => ⟨q, requested, hpublished h⟩⟩
    by_contra h
    have hmem : Command.update r ∈ requested := by
      rw [← hsilent h, hcs]
      exact List.mem_cons_self
    exact ne_update_of_mem_requested hmem r rfl
  refine ⟨hfirst, hpublished, hsilent, ?_, edited_idle p, ?_⟩
  · intro h
    rw [hfirst]
    exact or_iff_left (not_not.mpr h)
  · have hidle : (handle .idle p).2 = if p != p then [.update p] else [] :=
      (handle_commands .idle p).trans (List.append_nil _)
    have hself : (p == p) = true ↔ p.Defined :=
      Parameters.beq_iff.trans (and_iff_right (Parameters.SameUpToZero.refl p))
    rw [hidle, ← hself, bne]
    rcases p == p with - | - <;> simp

/-- A slider beyond its range together with three requests, and two keys that cancel out. -/
theorem publishes_edits_beyond_range :
    let input : FrameInput := { FrameInput.idle with
      toggleGrowth := true, toggleLeafColor := true, regenerate := true
      sliders := { SliderEdits.none with angle := some 400 } }
    let q := { Parameters.standard with angle := 90, randomLeafColor := true }
    let cancelling := { FrameInput.idle with nextRuleSet := true, previousRuleSet := true }
    handle input .standard = (q, [.update q, .toggleGrowth, .regenerate]) ∧
      handle cancelling .standard = (.standard, []) := by
  intro input q cancelling
  have hedited : edited input .standard = q := by decide +kernel
  have hcancelled : edited cancelling .standard = .standard := by decide +kernel
  have hdefined : Parameters.standard.Defined := by decide +kernel
  have hchanged : ¬ (edited input .standard).SameUpToZero .standard := fun h =>
    absurd h.randomLeafColor (by decide +kernel)
  have hsame : (edited cancelling .standard).SameUpToZero .standard := by
    rw [hcancelled]
    exact .refl _
  obtain ⟨-, hpublished, -⟩ := publishes_edits input .standard
  obtain ⟨-, -, hsilent, -⟩ := publishes_edits cancelling .standard
  have hcommands := hpublished (Or.inl hchanged)
  have hnone := hsilent (not_or.mpr ⟨not_not.mpr hsame, not_not.mpr hdefined⟩)
  exact ⟨Prod.ext hedited (hcommands.trans (by decide +kernel)), Prod.ext hcancelled hnone⟩

/-- An angle that is not a number is published over and over, though nothing edits it. -/
theorem publishes_unedited :
    let p := { Parameters.standard with angle := Float32.ofBits 0x7fc00000 }
    handle .idle p = (p, [.update p]) := by
  decide +kernel

end Panel

end TurtleTree
