/-
TurtleTree/Proofs/Growth/Detection.lean

What a poll overlooks.

A poll that is due takes the live parameters over and announces them, unless the
comparison with the captured ones sees no difference.  So nothing is overlooked
but what `Parameters.Overlooked` tells: measures that drift within the tolerance,
and measures that become numbers or cease to be (`Grower.detects_edits`).

The latter is a gap.  An angle that is not a number may be edited to 30, and no
poll will notice it (`Grower.overlooks_undefined_angle`).
-/
import TurtleTree.Proofs.Growth.Begun
import TurtleTree.Proofs.Parameters.Comparison

namespace TurtleTree

namespace Grower

variable {σ : Type} [Scene σ] {g : Grower σ} {d : Duration}

/-- A poll that sees a difference captures the live parameters, and announces a run of them. -/
theorem captures_of_pollFinds (h : g.pollFinds d = true) :
    (g.tick d).buffered = g.parameters ∧
      (g.tick d).announced = g.announced ++ [.parametersChanged, g.parameters.startEvent] := by
  have hfinds : g.watch.finds d = true := h
  have hwatch : (g.tick d).watch = g.watch.tick d := watch_respond g (.command (.tick d))
  refine ⟨?_, ?_⟩
  · have hcaptured := congrArg Watch.captured hwatch
    rwa [Watch.tick_of_finds hfinds] at hcaptured
  · have hannounced := announced_apply_tick g d
    rwa [Watch.begun_tick, hfinds] at hannounced

/-- Any other tick leaves the captured parameters alone, and announces nothing. -/
theorem keeps_of_not_pollFinds (h : g.pollFinds d = false) :
    (g.tick d).buffered = g.buffered ∧ (g.tick d).announced = g.announced := by
  have hfinds : g.watch.finds d = false := h
  have hwatch : (g.tick d).watch = g.watch.tick d := watch_respond g (.command (.tick d))
  refine ⟨?_, ?_⟩
  · have hcaptured := congrArg Watch.captured hwatch
    rwa [Watch.tick_of_not_finds hfinds] at hcaptured
  · have hannounced := announced_apply_tick g d
    rwa [Watch.begun_tick, hfinds, if_neg Bool.false_ne_true, List.flatMap_nil,
      List.append_nil] at hannounced

/-- **No edit that is seen is overlooked.**

* A comparison of parameters is false exactly if they agree in all that is not a measure, and
  each measure is close to the other or one of the two is not a number.
* If the same measures are numbers in both, it is false exactly if they are within the tolerance.
* It is symmetric, and false between the same parameters, numbers or not.  There is a single NaN,
  so the payloads of NaNs are not told apart.
* A poll that is due takes an edit over and announces it with a new run, whatever the grower
  does at that time, and otherwise keeps what was captured and announces nothing. -/
theorem detects_edits :
    (∀ p q : Parameters, p.differsFrom q = false ↔
      p.SameChoices q ∧ List.Forall₂ (fun x y => Parameters.Close x y ∨ x.isNaN ≠ y.isNaN)
        p.measures q.measures) ∧
    (∀ p q : Parameters, p.Comparable q → (p.differsFrom q = false ↔ p.WithinTolerance q)) ∧
    (∀ p q : Parameters, p.differsFrom q = q.differsFrom p) ∧
    (∀ p : Parameters, p.differsFrom p = false) ∧
    (∀ (g : Grower σ) (d : Duration), g.config.pollInterval ≤ g.pollElapsed + d →
      (¬ g.parameters.Overlooked g.buffered →
        (g.tick d).buffered = g.parameters ∧
          (g.tick d).announced = g.announced ++ [.parametersChanged, g.parameters.startEvent]) ∧
      (g.parameters.Overlooked g.buffered →
        (g.tick d).buffered = g.buffered ∧ (g.tick d).announced = g.announced)) := by
  refine ⟨fun _ _ => Parameters.differsFrom_eq_false_iff, ?_, Parameters.differsFrom_comm,
    Parameters.differsFrom_self, ?_⟩
  · intro p q h
    rw [Parameters.differsFrom_eq_false_iff, Parameters.overlooked_iff_withinTolerance h]
  · intro g d hdue
    have hfinds : g.pollFinds d = g.parameters.differsFrom g.buffered := by
      rw [pollFinds, decide_eq_true hdue, Bool.true_and]
    rw [← Parameters.differsFrom_eq_false_iff, ← hfinds, Bool.not_eq_false]
    exact ⟨captures_of_pollFinds, keeps_of_not_pollFinds⟩

/-- An edit of the angle by half a degree. -/
theorem detects_edits_half_degree :
    let p := { Parameters.standard with iterations := 0 }
    let q := { p with angle := 25.5 }
    let g := (begin (GrowthConfig.ofSeed 7) p (none : Option SceneStore)).apply (.update q)
    let d := Duration.ofMilliseconds 200
    ¬ q.WithinTolerance p ∧ q.differsFrom p = true ∧ (g.tick d).buffered = q ∧
      (g.tick d).announced
        = [.parametersChanged, .regenerationStarted RuleSetId.first 0 .instant] := by
  intro p q g d
  obtain ⟨hall, hsome, -, -, hpoll⟩ := detects_edits (σ := SceneStore)
  have hdiffers : q.differsFrom p = true := by decide +kernel
  have hcomparable : q.Comparable p :=
    List.Forall₂.cons (by decide +kernel) (List.forall₂_same.mpr fun _ _ => rfl)
  have hdue : g.config.pollInterval ≤ g.pollElapsed + d := by decide +kernel
  have hseen : ¬ g.parameters.Overlooked g.buffered := fun h =>
    Bool.false_ne_true (((hall q p).mpr h).symm.trans hdiffers)
  exact ⟨fun h => Bool.false_ne_true (((hsome q p hcomparable).mpr h).symm.trans hdiffers),
    hdiffers, (hpoll g d hdue).1 hseen⟩

/-- An edit from an angle that is not a number to 30 degrees.  The comparison is false, and the
poll leaves the edit where it is. -/
theorem overlooks_undefined_angle :
    let p := { Parameters.standard with iterations := 0, angle := Float32.ofBits 0x7fc00000 }
    let q := { p with angle := 30 }
    let g := (begin (GrowthConfig.ofSeed 7) p (none : Option SceneStore)).apply (.update q)
    let d := Duration.ofMilliseconds 200
    (q.differsFrom p = false ∧ q.angle ≠ p.angle ∧
        ¬ (q.angle - p.angle).abs ≤ Parameters.tolerance) ∧
      g.config.pollInterval ≤ g.pollElapsed + d ∧
      g.parameters = q ∧ (g.tick d).buffered = p ∧ (g.tick d).announced = [] := by
  decide +kernel

end Grower

end TurtleTree
