/-
TurtleTree/Proofs/Growth/Material.lean

The material of leaves.

A material is an index into a palette that the grower never sees: all it knows is
the size of the palette.  The index is drawn when a run begins, and nothing else
sets it, neither a stop nor an edit of the parameters.  The turtle gives the
material at hand to every leaf (`Turtle.material_of_mem_run`), and a new material
comes with an empty scene, so the leaves of a scene all have the same one.

Main result: after any requests the material is what the parameters of the last run
call for, and the leaves of the store have it (`Grower.painted_respondAll`).
-/
import TurtleTree.Proofs.Growth.Polling
import TurtleTree.Proofs.Random.Index
import TurtleTree.Proofs.Scene.Contents

namespace TurtleTree

/-- The parameters call for this material: one of a palette of this size if leaves are to have
a random one, and none otherwise. -/
def Parameters.CallsFor (p : Parameters) (size : Nat) : Option Material → Prop
  | some m => p.randomLeafColor = true ∧ m.index.toNat < size
  | none => p.randomLeafColor = false

/-! ### Leaves of a turtle -/

/-- A leaf has the material of its context. -/
theorem Turtle.material_of_step {c : DrawingContext} {t : Turtle} {x : Char} {l : Leaf}
    (h : (t.step c x).2 = some (.leaf l)) : l.material = c.material := by
  simp only [step, emission?] at h
  split at h
  · split at h <;> simp at h
  · split at h <;> simp at h
  · split at h
    · obtain ⟨tip, -, htip⟩ := Option.map_eq_some_iff.mp h
      obtain rfl := Emission.leaf.inj htip
      rfl
    · exact nomatch h
  · exact nomatch h

theorem Turtle.material_of_mem_run {c : DrawingContext} {t : Turtle} {xs : List Char} {l : Leaf}
    (h : some (Emission.leaf l) ∈ (t.run c xs).1) : l.material = c.material := by
  induction xs generalizing t with
  | nil => exact absurd h List.not_mem_nil
  | cons x xs ih =>
    rw [run_cons] at h
    rcases List.mem_cons.mp h with h | h
    · exact material_of_step h.symm
    · exact ih h

/-- Units of work leave no other leaves behind. -/
theorem DrawingContext.material_of_mem_made {c : DrawingContext} {w : Nat} {l : Leaf}
    (h : Emission.leaf l ∈ c.made w) : l.material = c.material := by
  obtain ⟨item, hitem, rfl⟩ := List.mem_filterMap.mp h
  exact Turtle.material_of_mem_run hitem

namespace Grower

/-! ### A new run -/

/-- A new run draws the material that its parameters call for. -/
theorem callsFor_planted {σ : Type} [Scene σ] {g : Grower σ} {size : Nat}
    (hsize : g.config.paletteSize = size) (hsome : size ≠ 0) (hfew : size ≤ 2 ^ 32) :
    g.parameters.CallsFor size g.planted.material := by
  have hmaterial : g.planted.material
      = (if g.parameters.randomLeafColor then g.provider.drawIndex size
          else (none, g.provider)).1.bind
        fun i => if i < 2 ^ 32 then some ⟨UInt32.ofNat i⟩ else none := by
    simp only [planted, report, cleanup, discardEmissions_eq, stopRun_eq, hsize]
  rw [hmaterial]
  rcases hcolor : g.parameters.randomLeafColor with - | -
  · exact hcolor
  · obtain ⟨w, hw, hlt⟩ := VarianceProvider.exists_drawIndex hsome hfew g.provider
    rw [if_pos rfl, hw, Option.bind_some, if_pos w.toNat_lt, UInt32.ofNat_toNat]
    exact ⟨hcolor, hlt⟩

theorem config_planted {σ : Type} [Scene σ] (g : Grower σ) : g.planted.config = g.config := by
  simp only [planted, report, cleanup, discardEmissions_eq, stopRun_eq]

/-- Ending a run leaves the material alone. -/
theorem settle_material {σ : Type} (g : Grower σ) :
    g.settle.config = g.config ∧ g.settle.material = g.material ∧
      g.settle.buffered = g.buffered := by
  rw [settle]
  split
  · split <;> exact ⟨rfl, rfl, rfl⟩
  · exact ⟨rfl, rfl, rfl⟩

/-! ### All requests -/

/-- The grower has an empty store, and the material that the last of its `m` runs calls for. -/
structure Primed (config : GrowthConfig) (m : Nat) (g : Grower SceneStore) : Prop where
  fixed : g.config = config
  store : ∃ s : SceneStore, g.scene = some s ∧ s.records = #[]
  plain : m = 0 → g.material = none
  painted : 0 < m → g.buffered.CallsFor config.paletteSize g.material

section Course

variable {config : GrowthConfig} {m : Nat} {g : Grower SceneStore}

theorem Primed.tuned (h : g.Primed config m) (p : Parameters) (d : Duration) :
    (g.tuned p d).Primed config m := ⟨h.fixed, h.store, h.plain, h.painted⟩

/-- Stopping a run leaves the material alone. -/
theorem Primed.stopped (h : g.Primed config m) (w : Nat) :
    (g.worked w).stopRun.discardEmissions.Primed config m := by
  obtain ⟨s, hs, -⟩ := h.store
  have hstore := stopped_worked_scene hs w
  rw [discardEmissions_eq, stopRun_eq] at hstore ⊢
  exact ⟨h.fixed, ⟨_, hstore, SceneStore.records_clear _⟩, h.plain, h.painted⟩

theorem primed_planted (hsome : config.paletteSize ≠ 0) (hfew : config.paletteSize ≤ 2 ^ 32)
    (h : Course (Primed config m) (Primed config m) g) (p : Parameters) (v : VarianceTable)
    (q : VarianceProvider) (d : Duration) (byPoll : Bool) :
    ((g.reset p v q d).noticed byPoll).planted.Primed config (m + 1) := by
  obtain ⟨hconfig, s, hs⟩ : g.config = config ∧ ∃ s, g.scene = some s := by
    cases h with
    | rest _ hr => exact ⟨hr.fixed, hr.store.imp fun s hs => hs.1⟩
    | @run b w hb _ =>
      obtain ⟨s, hs, -⟩ := hb.store
      exact ⟨(settle_material _).1.trans hb.fixed,
        _, (settle_scene_emitted _).1.trans (worked_scene hs w)⟩
  have hnoticed : ((g.reset p v q d).noticed byPoll).config = config := by
    cases byPoll <;> exact hconfig
  have hscene := planted_reset_scene g p v q d byPoll
  rw [hs, Option.map_some] at hscene
  refine ⟨(config_planted _).trans hnoticed, ⟨_, hscene, SceneStore.records_clear _⟩,
    fun hnone => absurd hnone (Nat.succ_ne_zero m), fun _ => ?_⟩
  rw [planted_buffered]
  exact callsFor_planted (congrArg GrowthConfig.paletteSize hnoticed) hsome hfew

theorem course_primed (hsome : config.paletteSize ≠ 0) (hfew : config.paletteSize ≤ 2 ^ 32)
    (h : Course (Primed config m) (Primed config m) g) (rs : List Request) :
    Course (Primed config (m + g.tally regenerates rs)) (Primed config (m + g.tally regenerates rs))
      (g.respondAll rs) := by
  refine Course.respondAll (R := fun m _ => Primed config m) (B := fun m _ => Primed config m)
    ?_ ?_ ?_ ?_ (k := 0) h rs
  · exact fun _ _ _ p d h => h.tuned p d
  · exact fun _ _ _ p d h => h.tuned p d
  · intro _ _ g p v q d byPoll h
    exact primed_planted hsome hfew h p v q d byPoll
  · exact fun _ _ _ w h _ => h.stopped w

/-- The material of a grower on its course, and that of the leaves in its store. -/
theorem exists_store_of_course (h : Course (Primed config m) (Primed config m) g) :
    (m = 0 → g.material = none) ∧
    (0 < m → g.buffered.CallsFor config.paletteSize g.material) ∧
    ∃ s : SceneStore, g.scene = some s ∧ ∀ l ∈ s.storedLeaves, l.material = g.material := by
  cases h with
  | rest _ hr =>
    obtain ⟨s, hs, hrecords⟩ := hr.store
    refine ⟨hr.plain, hr.painted, s, hs, ?_⟩
    simp [SceneStore.storedLeaves, hrecords]
  | @run b w hb hw =>
    obtain ⟨s, hs, hrecords⟩ := hb.store
    obtain ⟨-, hmaterial, hbuffered⟩ := settle_material (b.worked w)
    refine ⟨fun hm => hmaterial.trans (hb.plain hm), fun hm => ?_,
      _, (settle_scene_emitted _).1.trans (worked_scene hs w), ?_⟩
    · rw [hmaterial, hbuffered]
      exact hb.painted hm
    · intro l hl
      rw [(SceneStore.shows_addAll hrecords (b.context.made w)).storedLeaves] at hl
      obtain ⟨e, he, hleaf⟩ := List.mem_filterMap.mp hl
      cases e with
      | segment _ => cases hleaf
      | leaf _ =>
        obtain rfl := Option.some.inj hleaf
        rw [hmaterial]
        exact DrawingContext.material_of_mem_made he

end Course

/-- **The material** is what the last run calls for, and none before the first, and all leaves
of the store have it. -/
theorem painted_respondAll (config : GrowthConfig) (hsome : config.paletteSize ≠ 0)
    (hfew : config.paletteSize ≤ 2 ^ 32) (p : Parameters) (rs : List Request) :
    let start := begin config p (some SceneStore.empty)
    let g := start.respondAll rs
    (start.tally beginsRun rs = 0 → g.material = none) ∧
    (0 < start.tally beginsRun rs →
      (start.captured p rs).CallsFor config.paletteSize g.material) ∧
    ∃ s : SceneStore, g.scene = some s ∧ ∀ l ∈ s.storedLeaves, l.material = g.material := by
  intro start g
  have hstart : start.Primed config 0 := ⟨rfl, ⟨_, rfl, rfl⟩, fun _ => rfl, fun h => absurd h (by simp)⟩
  have hcourse := exists_store_of_course (course_primed hsome hfew (.rest rfl hstart) rs)
  have hkind : (beginsRun : Grower SceneStore → Request → Bool) = regenerates := by
    funext g r
    exact beginsRun_eq g r
  have hbuffered : g.buffered = start.captured p rs := buffered_respondAll start rs
  rw [hkind, ← hbuffered]
  rw [Nat.zero_add] at hcourse
  exact hcourse

end Grower

end TurtleTree
