/-
TurtleTree/Proofs/Growth/CallRounds.lean

The calls that a grower makes on its scene.

The scene is of any kind and gives out any handles it likes, the same one twice
included.  It is put under a recorder, which the grower cannot tell from the
scene itself (`forget_respondAll`).

A request adds creations, and if it removes a tree it first finishes the round
of that tree: every emission is hidden, then the scene is cleared
(`exists_respond_calls`).  Main result: the calls of a new grower are rounds, one
for every run that was begun or stopped and one more (`callRounds_respondAll`).
-/
import TurtleTree.Proofs.Growth.Output
import TurtleTree.Proofs.Growth.Work
import TurtleTree.Proofs.Scene.Rounds

namespace TurtleTree

/-! ### The recorder makes no difference -/

/-- The output without the record. -/
def Output.forget {σ : Type} (o : Output (Recorded σ)) : Output σ :=
  { o with scene := o.scene.map Recorded.scene }

namespace Grower

variable {σ : Type}

/-- The grower without the record of its calls. -/
def forget (g : Grower (Recorded σ)) : Grower σ := g.put g.output.forget

variable [Scene σ]

theorem kept_forget : Kept fun (o : Output (Recorded σ)) o' => o' = o.forget where
  report := by
    rintro o - e - rfl
    rfl
  discard := by
    rintro o - rfl
    rcases o with ⟨- | r, emitted, outbox⟩
    · rfl
    · simp [Output.discard, Output.forget]
  emit := by
    rintro o - e rfl
    rcases o with ⟨- | r, emitted, outbox⟩
    · rfl
    · simp [Output.emit, Output.forget, Scene.with?, Scene.names?, Scene.addAll]

/-- A grower does the same with a recorder as without. -/
theorem forget_respondAll (g : Grower (Recorded σ)) (qs : List Request) :
    (g.respondAll qs).forget = g.forget.respondAll qs := by
  have halike : Alike _ (g.respondAll qs) (g.forget.respondAll qs) :=
    Alike.respondAll kept_forget (.intro g.output.forget rfl) qs
  rw [halike.eq_put, halike.output]
  rfl

/-! ### Units of work only create -/

/-- `g'` is `g` with emissions taken in by its scene, for all that can be seen there. -/
def Adds (g g' : Grower σ) : Prop :=
  ∃ es, g'.scene = Scene.with? g.scene es ∧
    g'.emitted = g.emitted ++ (Scene.names? g.scene es).toArray

theorem Adds.refl (g : Grower σ) : g.Adds g := ⟨[], by simp, by simp⟩

theorem Adds.trans {g₁ g₂ g₃ : Grower σ} (h₁ : g₁.Adds g₂) (h₂ : g₂.Adds g₃) : g₁.Adds g₃ := by
  obtain ⟨es, hscene, hemitted⟩ := h₁
  obtain ⟨fs, hscene', hemitted'⟩ := h₂
  refine ⟨es ++ fs, ?_, ?_⟩
  · rw [hscene', hscene, Scene.with?_append]
  · rw [hemitted', hemitted, hscene, Scene.names?_append]
    simp

theorem adds_settle (g : Grower σ) : g.Adds g.settle := by
  obtain ⟨hscene, hemitted⟩ := settle_scene_emitted g
  exact ⟨[], by simp [hscene], by simp [hemitted]⟩

theorem adds_emit (g : Grower σ) (e : Emission) : g.Adds (g.emit e) := by
  rw [emit_eq]
  exact ⟨[e], rfl, rfl⟩

theorem adds_advance (g : Grower σ) : g.Adds g.advance := by
  obtain h | ⟨run, h | ⟨pass, bytes, h⟩ | ⟨e, h⟩⟩ := g.advance_cases
  · rw [h]
    exact Adds.refl g
  · rw [h]
    exact adds_settle _
  · rw [h]
    exact adds_settle _
  · have hemit : g.Adds ({ g with run := some run }.emit e) :=
      adds_emit { g with run := some run } e
    rw [h]
    exact hemit.trans (adds_settle _)

theorem adds_advanceTimes (n : Nat) (g : Grower σ) : g.Adds (advanceTimes n g) := by
  induction n generalizing g with
  | zero => exact Adds.refl g
  | succ n ih => exact (adds_advance g).trans (ih g.advance)

theorem adds_sown (g : Grower σ) : g.planted.Adds g.sown := adds_settle _

/-! ### The calls of a request -/

/-- The request removes the tree that is there. -/
def clears (g : Grower σ) (q : Request) : Bool := g.regenerates q || g.stops q

/-- The calls that a request makes before it creates anything. -/
def closingCalls (g : Grower σ) (q : Request) : List SceneCall :=
  if g.clears q then SceneCall.closing g.emitted.toList else []

/-- The handles that a request leaves in place. -/
def standingHandles (g : Grower σ) (q : Request) : List EmissionHandle :=
  if g.clears q then [] else g.emitted.toList

section Removal

variable {g : Grower σ} {q : Request}

omit [Scene σ] in
theorem closingCalls_of_clears (h : g.clears q = true) :
    g.closingCalls q = SceneCall.closing g.emitted.toList := if_pos h

omit [Scene σ] in
theorem standingHandles_of_clears (h : g.clears q = true) : g.standingHandles q = [] := if_pos h

omit [Scene σ] in
theorem closingCalls_of_not_clears (h : g.clears q = false) : g.closingCalls q = [] := by
  rw [closingCalls, h, if_neg Bool.false_ne_true]

omit [Scene σ] in
theorem standingHandles_of_not_clears (h : g.clears q = false) :
    g.standingHandles q = g.emitted.toList := by
  rw [standingHandles, h, if_neg Bool.false_ne_true]

end Removal

/-- Emissions taken in are creations on the record, and their handles are kept. -/
theorem Adds.exists_calls {g g' : Grower (Recorded σ)} (h : g.Adds g') {r : Recorded σ}
    (hr : g.scene = some r) :
    ∃ (r' : Recorded σ) (creations : List SceneCall) (hs : List EmissionHandle),
      g'.scene = some r' ∧ r'.calls = r.calls ++ creations ∧
      g'.emitted.toList = g.emitted.toList ++ hs ∧
      creations.map SceneCall.created? = hs.map some := by
  obtain ⟨es, hscene, hemitted⟩ := h
  obtain ⟨creations, hcalls, hcreated⟩ := Recorded.exists_calls_addAll r es
  rw [hr] at hscene hemitted
  exact ⟨_, creations, _, hscene, hcalls, by simp [hemitted, Scene.names?], hcreated⟩

/-- Removing a tree finishes its round. -/
theorem calls_discard (r : Recorded σ) (hs : List EmissionHandle) :
    (Scene.clear (Scene.hideAll r hs)).calls = r.calls ++ SceneCall.closing hs := by
  show (Scene.hideAll r hs).calls ++ [.clear] = _
  rw [Recorded.calls_hideAll, List.append_assoc]
  rfl

/-- **The calls of a request.**  If it removes a tree, the round of that tree is finished
first.  Then there are only creations. -/
theorem exists_respond_calls {g : Grower (Recorded σ)} {r : Recorded σ} (hr : g.scene = some r)
    (q : Request) :
    ∃ (r' : Recorded σ) (creations : List SceneCall) (hs : List EmissionHandle),
      (g.respond q).scene = some r' ∧ r'.calls = r.calls ++ g.closingCalls q ++ creations ∧
      (g.respond q).emitted.toList = g.standingHandles q ++ hs ∧
      creations.map SceneCall.created? = hs.map some := by
  obtain ⟨hreg, hstop, p, d, n, hq⟩ | ⟨hreg, hstop, p, v, t, d, byPoll, n, hq⟩ |
    ⟨hreg, hstop, hq⟩ := g.respond_cases q
  -- the run goes on
  · have hclears : g.clears q = false := by rw [clears, hreg, hstop]; rfl
    have hadds : g.Adds (g.respond q) := by
      rw [hq]
      exact adds_advanceTimes n (g.tuned p d)
    obtain ⟨r', creations, hs, hscene, hcalls, hemitted, hcreated⟩ := hadds.exists_calls hr
    refine ⟨r', creations, hs, hscene, ?_, ?_, hcreated⟩
    · rw [closingCalls_of_not_clears hclears, List.append_nil]
      exact hcalls
    · rw [standingHandles_of_not_clears hclears]
      exact hemitted
  -- a run begins
  · have hclears : g.clears q = true := by rw [clears, hreg, hstop]; rfl
    have hplanted := planted_reset_scene g p v t d byPoll
    rw [hr, Option.map_some] at hplanted
    have hadds := (adds_sown ((g.reset p v t d).noticed byPoll)).trans (adds_advanceTimes n _)
    obtain ⟨r', creations, hs, hscene, hcalls, hemitted, hcreated⟩ :=
      hadds.exists_calls hplanted
    rw [← hq] at hscene hemitted
    refine ⟨r', creations, hs, hscene, ?_, ?_, hcreated⟩
    · rw [closingCalls_of_clears hclears, hcalls, calls_discard]
    · rw [standingHandles_of_clears hclears, hemitted, planted_emitted]
  -- the run in flight is stopped
  · have hclears : g.clears q = true := by rw [clears, hreg, hstop]; rfl
    have hscene := stopped_scene g
    rw [hr, Option.map_some, ← hq] at hscene
    refine ⟨_, [], [], hscene, ?_, ?_, rfl⟩
    · rw [closingCalls_of_clears hclears, calls_discard, List.append_nil]
    · rw [standingHandles_of_clears hclears, hq, stopped_emitted]
      rfl

/-! ### Rounds -/

/-- A request keeps the calls in rounds, and finishes one if it removes a tree. -/
theorem inRounds_respond {g : Grower (Recorded σ)} {r : Recorded σ} {n : Nat}
    (hr : g.scene = some r) (h : SceneCall.InRounds n g.emitted.toList r.calls) (q : Request) :
    ∃ r' : Recorded σ, (g.respond q).scene = some r' ∧
      SceneCall.InRounds (n + (g.clears q).toNat) (g.respond q).emitted.toList r'.calls := by
  obtain ⟨r', creations, hs, hscene, hcalls, hemitted, hcreated⟩ := exists_respond_calls hr q
  refine ⟨r', hscene, ?_⟩
  rw [hcalls, hemitted]
  refine SceneCall.InRounds.createAll ?_ hcreated
  rcases hclears : g.clears q with - | -
  · rw [closingCalls_of_not_clears hclears, standingHandles_of_not_clears hclears,
      List.append_nil]
    exact h
  · rw [closingCalls_of_clears hclears, standingHandles_of_clears hclears]
    exact h.close

omit [Scene σ] in
/-- A request either begins a run or stops one for good, or neither. -/
theorem toNat_clears (g : Grower σ) (q : Request) :
    (g.clears q).toNat = (g.regenerates q).toNat + (g.stops q).toNat := by
  cases q with
  | command c => simp [clears, stops]
  | cancel => simp [clears, regenerates]

theorem inRounds_respondAll {g : Grower (Recorded σ)} {r : Recorded σ} {n : Nat}
    (hr : g.scene = some r) (h : SceneCall.InRounds n g.emitted.toList r.calls)
    (qs : List Request) :
    ∃ r' : Recorded σ, (g.respondAll qs).scene = some r' ∧
      SceneCall.InRounds (n + (g.tally regenerates qs + g.tally stops qs))
        (g.respondAll qs).emitted.toList r'.calls := by
  induction qs generalizing g r n with
  | nil => exact ⟨r, hr, h⟩
  | cons q qs ih =>
    obtain ⟨r', hr', h'⟩ := inRounds_respond hr h q
    obtain ⟨r'', hr'', h''⟩ := ih hr' h'
    refine ⟨r'', hr'', ?_⟩
    have hcount : n + (g.clears q).toNat
          + ((g.respond q).tally regenerates qs + (g.respond q).tally stops qs)
        = n + (g.tally regenerates (q :: qs) + g.tally stops (q :: qs)) := by
      rw [toNat_clears, tally, tally]
      omega
    rw [← hcount]
    exact h''

/-- **Calls come in rounds.**  Whatever a host asks of a new grower, and whatever scene it
works on: its calls are finished rounds, as many as runs were begun or stopped for good,
and the creations of one more round, whose handles the grower keeps.  So the scene is
cleared once for each of those, only what is there is hidden, nothing is shown again, and
the first thing a new run does is to finish the round of the last. -/
theorem callRounds_respondAll (config : GrowthConfig) (p : Parameters) (s : σ)
    (qs : List Request) :
    let start := begin config p (some (Recorded.begin s))
    let g := start.respondAll qs
    let finished := start.tally regenerates qs + start.tally stops qs
    g.forget = (begin config p (some s)).respondAll qs ∧
    ∃ r : Recorded σ, g.scene = some r ∧
      (∃ (rounds : List (List SceneCall)) (last : List SceneCall),
        r.calls = rounds.flatMap SceneCall.round ++ last ∧ rounds.length = finished ∧
        SceneCall.handles last = g.emitted.toList ∧
        ∀ creations ∈ rounds ++ [last], ∀ c ∈ creations, c.created?.isSome = true) ∧
      r.calls.countP SceneCall.isClear = finished ∧
      (∀ before x active after, r.calls = before ++ .setActive x active :: after →
        active = false ∧ x ∈ SceneCall.standing before) ∧
      (∀ q, g.regenerates q = true →
        ∃ (r' : Recorded σ) (creations : List SceneCall), (g.respond q).scene = some r' ∧
          r'.calls = r.calls ++ SceneCall.closing g.emitted.toList ++ creations ∧
          SceneCall.handles creations = (g.respond q).emitted.toList ∧
          ∀ c ∈ creations, c.created?.isSome = true) := by
  intro start g finished
  obtain ⟨r, hr, hrounds⟩ := inRounds_respondAll (g := start) rfl .start qs
  rw [Nat.zero_add] at hrounds
  refine ⟨forget_respondAll start qs, r, hr, hrounds.exists_rounds, hrounds.countP_isClear,
    ?_, ?_⟩
  · intro before x active after hcalls
    exact hrounds.of_setActive hcalls
  · intro q hq
    obtain ⟨r', creations, hs, hscene, hcalls, hemitted, hcreated⟩ := exists_respond_calls hr q
    have hclears : g.clears q = true := by rw [clears, hq]; rfl
    rw [closingCalls_of_clears hclears] at hcalls
    rw [standingHandles_of_clears hclears, List.nil_append] at hemitted
    refine ⟨r', creations, hscene, hcalls, ?_, ?_⟩
    · rw [SceneCall.handles_of_map hcreated, hemitted]
    · intro c hc
      exact SceneCall.isSome_of_map hcreated hc

end Grower

end TurtleTree
