/-
TurtleTree/Proofs/Scene/Contents.lean

What a store holds after emissions were taken in.

The store keeps what it is given in one array and finds it again by the place
that the name of an emission stands for.  While fewer than `2 ^ 64` emissions
were taken in, every name leads to its own emission (`emission?_addAll`);
afterwards the counter of names stands still.
-/
import TurtleTree.Scene.Store
import TurtleTree.Proofs.Scene.Batch

namespace TurtleTree

namespace SceneStore

/-! ### Looking at a store -/

/-- Number of emissions taken in so far, those before a clearing included. -/
def created (s : SceneStore) : Nat := s.firstHandle + s.records.size

/-- The emission of a name, shown or hidden. -/
def emission? (s : SceneStore) : EmissionHandle → Option Emission
  | .segment h => (s.segment? h).map .segment
  | .leaf h => (s.leaf? h).map .leaf

/-- The store holds exactly these emissions, in this order, and shows them all. -/
structure Shows (s : SceneStore) (es : List Emission) : Prop where
  activeSegments : s.activeSegments = es.filterMap Emission.segment?
  activeLeaves : s.activeLeaves = es.filterMap Emission.leaf?
  storedSegments : s.storedSegments = es.filterMap Emission.segment?
  storedLeaves : s.storedLeaves = es.filterMap Emission.leaf?

theorem shows_of_records {s : SceneStore} {es : List Emission}
    (h : s.records.toList = es.map fun e => ⟨e, true⟩) : s.Shows es := by
  have hactive : s.active = es.map fun e => ⟨e, true⟩ := by
    rw [active, h, List.filter_eq_self]
    simp
  have hsegment : (StoredEmission.segment? ∘ fun e => (⟨e, true⟩ : StoredEmission))
      = Emission.segment? := by
    funext e
    cases e <;> rfl
  have hleaf : (StoredEmission.leaf? ∘ fun e => (⟨e, true⟩ : StoredEmission))
      = Emission.leaf? := by
    funext e
    cases e <;> rfl
  constructor
  · rw [SceneStore.activeSegments, hactive, List.filterMap_map, hsegment]
  · rw [SceneStore.activeLeaves, hactive, List.filterMap_map, hleaf]
  · rw [SceneStore.storedSegments, h, List.filterMap_map, hsegment]
  · rw [SceneStore.storedLeaves, h, List.filterMap_map, hleaf]

/-- As many segments are shown as there are among the emissions. -/
theorem Shows.length_activeSegments {s : SceneStore} {es : List Emission} (h : s.Shows es) :
    s.activeSegments.length = es.countP Emission.isSegment := by
  rw [h.activeSegments, List.length_filterMap_eq_countP]
  refine List.countP_congr fun e _ => ?_
  cases e <;> rfl

theorem Shows.length_activeLeaves {s : SceneStore} {es : List Emission} (h : s.Shows es) :
    s.activeLeaves.length = es.countP Emission.isLeaf := by
  rw [h.activeLeaves, List.length_filterMap_eq_countP]
  refine List.countP_congr fun e _ => ?_
  cases e <;> rfl

@[simp] theorem records_clear (s : SceneStore) : (Scene.clear s).records = #[] := rfl

/-! ### Taking emissions in -/

@[simp] theorem add_snd (s : SceneStore) (e : Emission) : (Scene.add s e).2 = s.keep e := by
  cases e <;> rfl

theorem number_add (s : SceneStore) (e : Emission) :
    (Scene.add s e).1.number = s.nextHandle := by
  cases e <;> rfl

theorem hasKind_add (s : SceneStore) (e : Emission) (a : Bool) :
    StoredEmission.hasKind ⟨e, a⟩ (Scene.add s e).1 = true := by
  cases e <;> rfl

theorem addAll_snd (s : SceneStore) (es : List Emission) :
    (Scene.addAll s es).2 = { s with
      records := s.records ++ (es.map fun e => (⟨e, true⟩ : StoredEmission)).toArray } := by
  induction es generalizing s with
  | nil => simp
  | cons e es ih =>
    rw [Scene.addAll, add_snd, ih]
    simp [keep]

/-- An empty store shows what it then takes in. -/
theorem shows_addAll {s : SceneStore} (h : s.records = #[]) (es : List Emission) :
    (Scene.addAll s es).2.Shows es := by
  refine shows_of_records ?_
  simp [addAll_snd, h]

/-- A place is found by the number that was given out for it. -/
theorem place?_of_number {s : SceneStore} {h : EmissionHandle} {i : Nat} (hi : i < s.records.size)
    (hnumber : h.number.toNat = s.firstHandle + i) (hkind : s.records[i].hasKind h = true) :
    s.place? h = some ⟨i, hi⟩ := by
  have hplace : h.number.toNat - s.firstHandle = i := by omega
  subst hplace
  rw [place?, if_pos (by omega), dif_pos hi, if_pos hkind]

/-- A name leads to the emission that was taken in under it. -/
theorem emission?_of_number {s t : SceneStore} {e : Emission} {i : Nat} {a : Bool}
    (hi : i < t.records.size) (hnumber : (Scene.add s e).1.number.toNat = t.firstHandle + i)
    (hrecord : t.records[i] = ⟨e, a⟩) : t.emission? (Scene.add s e).1 = some e := by
  have hplace : t.place? (Scene.add s e).1 = some ⟨i, hi⟩ := by
    refine place?_of_number hi hnumber ?_
    rw [hrecord]
    exact hasKind_add s e a
  cases e with
  | segment x =>
    show ((t.place? (Scene.add s (.segment x)).1).bind
      fun i => t.records[i].segment?).map Emission.segment = _
    rw [hplace, Option.bind_some]
    show (t.records[i].segment?).map Emission.segment = _
    rw [hrecord]
    rfl
  | leaf l =>
    show ((t.place? (Scene.add s (.leaf l)).1).bind
      fun i => t.records[i].leaf?).map Emission.leaf = _
    rw [hplace, Option.bind_some]
    show (t.records[i].leaf?).map Emission.leaf = _
    rw [hrecord]
    rfl

/-- **Names are not mixed up** while fewer than `2 ^ 64` emissions were taken in. -/
theorem emission?_addAll (s : SceneStore) (es : List Emission)
    (h : (Scene.addAll s es).2.created < 2 ^ 64) :
    (Scene.addAll s es).1.map (Scene.addAll s es).2.emission? = es.map some := by
  -- the first emission keeps its place while the others are put behind it
  induction es generalizing s with
  | nil => rfl
  | cons e es ih =>
    have htail := ih (s.keep e) (by rw [Scene.addAll, add_snd] at h; exact h)
    rw [addAll_snd, created] at h
    simp only [List.map_cons, List.size_toArray, Array.size_append, List.length_cons,
      List.length_map] at h
    have hnumber : (Scene.add s e).1.number.toNat = s.firstHandle + s.records.size := by
      rw [number_add, nextHandle, UInt64.toNat_ofNat', Nat.mod_eq_of_lt (by omega)]
      omega
    rw [Scene.addAll, add_snd, List.map_cons, List.map_cons, htail]
    congr 1
    have hrecords : (Scene.addAll (s.keep e) es).2.records
        = s.records.push ⟨e, true⟩ ++ (es.map fun e => (⟨e, true⟩ : StoredEmission)).toArray := by
      rw [addAll_snd]
      rfl
    have hfirst : (Scene.addAll (s.keep e) es).2.firstHandle = s.firstHandle := by
      rw [addAll_snd]
      rfl
    refine emission?_of_number (i := s.records.size) (a := true) ?_ ?_ ?_
    · simp [hrecords]
    · rw [hnumber, hfirst]
    · simp [hrecords]

end SceneStore

end TurtleTree
