/-
TurtleTree/Proofs/Scene/Rounds.lean

Rounds of calls on a scene.

A round is made of creations.  It is finished by hiding everything it created,
one by one and in the order of creation, and then clearing the scene.
`InRounds n hs calls` says that the calls are `n` finished rounds and one more
that is still in its creations, which gave out the handles `hs` so far.

Main results, all by induction on the calls: they can be cut into rounds
(`InRounds.exists_rounds`), an emission is hidden only while it is there and
nothing is ever shown again (`InRounds.of_setActive`), and the scene is cleared
once for each finished round (`InRounds.countP_isClear`).
-/
import TurtleTree.Proofs.Scene.Recorder

namespace TurtleTree

namespace SceneCall

/-- The calls that finish a round: hide what it created, in order, and clear the scene. -/
def closing (hs : List EmissionHandle) : List SceneCall := hs.map hide ++ [clear]

/-- A finished round of creations. -/
def round (creations : List SceneCall) : List SceneCall :=
  creations ++ closing (handles creations)

/-- `n` finished rounds, and the creations of another that gave out the handles `hs`. -/
inductive InRounds : Nat → List EmissionHandle → List SceneCall → Prop
  | start : InRounds 0 [] []
  | create {n hs calls c h} : InRounds n hs calls → c.created? = some h →
      InRounds n (hs ++ [h]) (calls ++ [c])
  | close {n hs calls} : InRounds n hs calls → InRounds (n + 1) [] (calls ++ closing hs)

variable {n : Nat} {hs : List EmissionHandle} {calls : List SceneCall}

/-- Several creations, one after the other. -/
theorem InRounds.createAll (h : InRounds n hs calls) {creations : List SceneCall}
    {more : List EmissionHandle} (hmore : creations.map created? = more.map some) :
    InRounds n (hs ++ more) (calls ++ creations) := by
  induction creations generalizing hs calls more with
  | nil =>
    have hnil : more = [] := List.map_eq_nil_iff.mp hmore.symm
    rw [hnil, List.append_nil, List.append_nil]
    exact h
  | cons c creations ih =>
    rcases more with - | ⟨x, more⟩
    · exact absurd hmore (List.cons_ne_nil _ _)
    · rw [List.map_cons, List.map_cons, List.cons.injEq] at hmore
      obtain ⟨hc, hrest⟩ := hmore
      rw [List.append_cons hs, List.append_cons calls]
      exact ih (h.create hc) hrest

/-! ### Rounds, one after the other -/

/-- **Cut into rounds.**  The calls are finished rounds and the creations of the last. -/
theorem InRounds.exists_rounds (h : InRounds n hs calls) :
    ∃ (rounds : List (List SceneCall)) (last : List SceneCall),
      calls = rounds.flatMap round ++ last ∧ rounds.length = n ∧ handles last = hs ∧
      ∀ creations ∈ rounds ++ [last], ∀ c ∈ creations, c.created?.isSome = true := by
  induction h with
  | start => exact ⟨[], [], rfl, rfl, rfl, by simp⟩
  | @create n hs calls c x h hc ih =>
    obtain ⟨rounds, last, hcalls, hlength, hlast, hcreated⟩ := ih
    refine ⟨rounds, last ++ [c], ?_, hlength, ?_, ?_⟩
    · rw [hcalls, List.append_assoc]
    · rw [handles_append, hlast]
      simp [handles, hc]
    · intro creations hmem d hd
      rcases List.mem_append.mp hmem with hround | hround
      · exact hcreated creations (List.mem_append_left _ hround) d hd
      · rw [List.mem_singleton.mp hround] at hd
        rcases List.mem_append.mp hd with hd | hd
        · exact hcreated last (List.mem_append_right _ List.mem_cons_self) d hd
        · rw [List.mem_singleton.mp hd, hc]
          rfl
  | @close n hs calls h ih =>
    obtain ⟨rounds, last, hcalls, hlength, hlast, hcreated⟩ := ih
    refine ⟨rounds ++ [last], [], ?_, ?_, rfl, ?_⟩
    · rw [hcalls, ← hlast, List.flatMap_append, List.flatMap_singleton, List.append_nil,
        List.append_assoc]
      rfl
    · rw [List.length_append, hlength]
      rfl
    · intro creations hmem d hd
      rcases List.mem_append.mp hmem with hround | hround
      · exact hcreated creations hround d hd
      · rw [List.mem_singleton.mp hround] at hd
        exact absurd hd List.not_mem_nil

/-- The scene is cleared once for each finished round. -/
theorem InRounds.countP_isClear (h : InRounds n hs calls) : calls.countP isClear = n := by
  induction h with
  | start => rfl
  | @create n hs calls c x h hc ih =>
    have hc : c.isClear = false := by
      cases c with
      | clear => cases hc
      | _ => rfl
    rw [List.countP_append, ih, List.countP_singleton, hc]
    rfl
  | @close n hs calls h ih =>
    have hnone : (hs.map hide).countP isClear = 0 := by
      rw [List.countP_eq_zero]
      simp [hide, isClear]
    rw [List.countP_append, ih, closing, List.countP_append, hnone]
    rfl

/-! ### What is there -/

/-- Hiding an emission does not remove it. -/
theorem foldl_stand_hide (hs xs : List EmissionHandle) : (xs.map hide).foldl stand hs = hs := by
  induction xs with
  | nil => rfl
  | cons x xs ih =>
    show (xs.map hide).foldl stand (hs ++ []) = hs
    rw [List.append_nil, ih]

/-- What is there was created by the round that is not finished. -/
theorem InRounds.standing_eq (h : InRounds n hs calls) : standing calls = hs := by
  induction h with
  | start => rfl
  | @create n hs calls c x h hc ih =>
    rw [standing_append, ih]
    cases c with
    | addSegment s k => exact congrArg (fun o => hs ++ Option.toList o) hc
    | addLeaf l k => exact congrArg (fun o => hs ++ Option.toList o) hc
    | setActive k a => cases hc
    | clear => cases hc
  | @close n hs calls h ih =>
    rw [standing_append, ih, closing, List.foldl_append, foldl_stand_hide]
    rfl

/-- A call that shows or hides is found in the first calls or in the rest. -/
theorem split_append {xs ys before after : List SceneCall} {c : SceneCall}
    (h : xs ++ ys = before ++ c :: after) :
    (∃ between, xs = before ++ c :: between) ∨
      ∃ between, before = xs ++ between ∧ ys = between ++ c :: after := by
  rcases List.append_eq_append_iff.mp h with ⟨between, hbefore, hys⟩ | ⟨between, hxs, hafter⟩
  · exact .inr ⟨between, hbefore, hys⟩
  · rcases between with - | ⟨d, between⟩
    · exact .inr ⟨[], by rw [hxs, List.append_nil, List.append_nil], hafter.symm⟩
    · rw [List.cons_append, List.cons.injEq] at hafter
      exact .inl ⟨between, by rw [hxs, hafter.1]⟩

/-- **Hidden once, never shown.**  Only emissions that are there are ever hidden, and nothing
is shown again. -/
theorem InRounds.of_setActive (h : InRounds n hs calls) {before after : List SceneCall}
    {x : EmissionHandle} {active : Bool} (hcalls : calls = before ++ .setActive x active :: after) :
    active = false ∧ x ∈ standing before := by
  induction h generalizing after with
  | start => exact absurd hcalls.symm (List.append_ne_nil_of_right_ne_nil _ (List.cons_ne_nil _ _))
  | @create n hs calls c y h hc ih =>
    rcases split_append hcalls with ⟨between, hin⟩ | ⟨between, -, hin⟩
    · exact ih hin
    -- the call is the creation, which it cannot be
    · have hmem : SceneCall.setActive x active ∈ [c] := by
        rw [hin]
        exact List.mem_append_right _ List.mem_cons_self
      rw [← List.mem_singleton.mp hmem] at hc
      cases hc
  | @close n hs calls h ih =>
    rcases split_append hcalls with ⟨between, hin⟩ | ⟨between, hbefore, hin⟩
    · exact ih hin
    · rcases split_append hin with ⟨rest, hhides⟩ | ⟨rest, -, hclear⟩
      -- one of the handles is being hidden, and those hidden before it are still there
      · obtain ⟨xs, ys, hxs, hprefix, hsuffix⟩ := List.map_eq_append_iff.mp hhides
        obtain ⟨y, zs, hys, hhide, -⟩ := List.map_eq_cons_iff.mp hsuffix
        obtain ⟨rfl, rfl⟩ := SceneCall.setActive.inj hhide
        refine ⟨rfl, ?_⟩
        rw [hbefore, standing_append, h.standing_eq, ← hprefix, foldl_stand_hide, hxs, hys]
        exact List.mem_append_right _ List.mem_cons_self
      · have hmem : SceneCall.setActive x active ∈ [SceneCall.clear] := by
          rw [hclear]
          exact List.mem_append_right _ List.mem_cons_self
        exact SceneCall.noConfusion (List.mem_singleton.mp hmem)

end SceneCall

end TurtleTree
