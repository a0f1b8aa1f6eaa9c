/-
TurtleTree/Proofs/Scene/CreationLog.lean

A store says what the log of the calls made on it says.

Everything that can be asked of a scene is a request, and the recorder turns
requests into a log of calls with the handles that were given out.  The log alone
tells what a store has to hold: the creations since it was last cleared
(`SceneCall.ledger`), each shown or hidden as the most recent call on its handle
has it (`SceneCall.shown`).

The store keeps no handles.  They can be told from the places in its array as long
as the counter has not stopped, that is for up to `2 ^ 64` creations; that every
place has its handle and every flag is that of the log is what requests preserve
(`Recorded.Keeps`).

Main result: all queries of a store are answered by the log of its calls, and a
request to show or hide something that is not there has no effect whatever
(`Recorded.refinesLog_performAll`).
-/
import TurtleTree.Proofs.Scene.Contents
import TurtleTree.Proofs.Scene.Recorder
import Mathlib.Data.List.DropRight

namespace TurtleTree

/-! ### Requests -/

/-- What can be asked of a scene. -/
inductive SceneRequest where
  | add (e : Emission)
  | setActive (h : EmissionHandle) (active : Bool)
  | clear
deriving DecidableEq

namespace SceneRequest

/-- The request takes something in. -/
def isAdd : SceneRequest → Bool
  | add _ => true
  | _ => false

theorem countP_isAdd_singleton (q : SceneRequest) : [q].countP isAdd = q.isAdd.toNat := by
  cases q <;> rfl

end SceneRequest

namespace Scene

variable {σ : Type} [Scene σ]

/-- Do what is asked. -/
def perform (s : σ) : SceneRequest → σ
  | .add e => (add s e).2
  | .setActive h active => setActive s h active
  | .clear => clear s

/-- Do all that is asked, in order. -/
def performAll (s : σ) (rs : List SceneRequest) : σ := rs.foldl perform s

theorem performAll_cons (s : σ) (q : SceneRequest) (rs : List SceneRequest) :
    performAll s (q :: rs) = performAll (perform s q) rs := rfl

end Scene

/-! ### What a log tells -/

namespace SceneCall

/-- The request that was answered by the call. -/
def request : SceneCall → SceneRequest
  | addSegment x _ => .add (.segment x)
  | addLeaf l _ => .add (.leaf l)
  | setActive h active => .setActive h active
  | clear => .clear

/-- The handle given out by the call and the emission it was given for. -/
def creation? : SceneCall → Option (EmissionHandle × Emission)
  | addSegment x h => some (.segment h, .segment x)
  | addLeaf l h => some (.leaf h, .leaf l)
  | setActive _ _ => none
  | clear => none

/-- What the call says about a handle: a new emission is shown. -/
def flag? (h : EmissionHandle) : SceneCall → Option Bool
  | setActive h' active => if h' = h then some active else none
  | c => if c.created? = some h then some true else none

/-- The calls since the scene was last cleared. -/
def recent (calls : List SceneCall) : List SceneCall := calls.rtakeWhile fun c => !c.isClear

/-- The creations since the scene was last cleared, in order. -/
def ledger (calls : List SceneCall) : List (EmissionHandle × Emission) :=
  (recent calls).filterMap creation?

/-- The most recent call on a handle shows it. -/
def shown (calls : List SceneCall) (h : EmissionHandle) : Bool :=
  (calls.filterMap (flag? h)).getLast?.getD false

variable {calls : List SceneCall} {c : SceneCall} {h : EmissionHandle}

theorem shown_concat (calls : List SceneCall) (c : SceneCall) (h : EmissionHandle) :
    shown (calls ++ [c]) h = (c.flag? h).getD (shown calls h) := by
  rw [shown, List.filterMap_append]
  rcases hc : c.flag? h with - | b
  · simp [hc, shown]
  · simp [hc]

theorem ledger_concat (hc : c.isClear = false) :
    ledger (calls ++ [c]) = ledger calls ++ c.creation?.toList := by
  have hrecent : recent (calls ++ [c]) = recent calls ++ [c] := by
    rw [recent, List.rtakeWhile_concat_pos _ _ _ (by rw [hc]; rfl)]
    rfl
  rw [ledger, hrecent, List.filterMap_append]
  rcases hcreation : c.creation? with - | x <;> simp [hcreation, ledger]

/-- The two calls that give a handle out. -/
theorem creation?_cases {e : Emission} (hc : c.creation? = some (h, e)) :
    (∃ x g, c = addSegment x g ∧ h = .segment g ∧ e = .segment x) ∨
    (∃ l g, c = addLeaf l g ∧ h = .leaf g ∧ e = .leaf l) := by
  cases c with
  | addSegment x g =>
    obtain ⟨rfl, rfl⟩ := Prod.mk.inj (Option.some.inj hc)
    exact Or.inl ⟨x, g, rfl, rfl, rfl⟩
  | addLeaf l g =>
    obtain ⟨rfl, rfl⟩ := Prod.mk.inj (Option.some.inj hc)
    exact Or.inr ⟨l, g, rfl, rfl, rfl⟩
  | setActive g active => exact absurd hc (by simp [creation?])
  | clear => exact absurd hc (by simp [creation?])

/-- Handles are of the kind of what they were given for. -/
theorem hasKind_of_mem_ledger {e : Emission} (hmem : (h, e) ∈ ledger calls) (active : Bool) :
    StoredEmission.hasKind ⟨e, active⟩ h = true := by
  obtain ⟨c, -, hc⟩ := List.mem_filterMap.mp hmem
  obtain ⟨x, g, -, rfl, rfl⟩ | ⟨l, g, -, rfl, rfl⟩ := creation?_cases hc
  · rfl
  · rfl

/-- A creation in the log. -/
theorem concat_of_creation? {e : Emission} (hc : c.creation? = some (h, e))
    (calls : List SceneCall) :
    handles (calls ++ [c]) = handles calls ++ [h] ∧
    ledger (calls ++ [c]) = ledger calls ++ [(h, e)] ∧
    ∀ g, shown (calls ++ [c]) g = (decide (h = g) || shown calls g) := by
  have hlog : c.created? = some h ∧ c.isClear = false ∧
      ∀ g, c.flag? g = if h = g then some true else none := by
    obtain ⟨x, g, rfl, rfl, rfl⟩ | ⟨l, g, rfl, rfl, rfl⟩ := creation?_cases hc
    · exact ⟨rfl, rfl, fun h => by simp [flag?, created?]⟩
    · exact ⟨rfl, rfl, fun h => by simp [flag?, created?]⟩
  obtain ⟨hcreated, hclear, hflag⟩ := hlog
  refine ⟨?_, ?_, fun g => ?_⟩
  · simp [handles, hcreated]
  · rw [ledger_concat hclear, hc]
    rfl
  · rw [shown_concat, hflag]
    split <;> simp [*]

end SceneCall

namespace SceneStore

/-- The place of a handle is known by its number and its kind. -/
theorem place?_eq_some_iff {s : SceneStore} {h : EmissionHandle} {i : Nat}
    (hi : i < s.records.size) :
    s.place? h = some ⟨i, hi⟩ ↔
      h.number.toNat = s.firstHandle + i ∧ s.records[i].hasKind h = true := by
  constructor
  · intro hplace
    rw [place?] at hplace
    split at hplace
    · split at hplace
      · split at hplace
        · next hfirst _ hkind =>
          obtain rfl : h.number.toNat - s.firstHandle = i :=
            congrArg Fin.val (Option.some.inj hplace)
          exact ⟨by omega, hkind⟩
        · exact absurd hplace (by simp)
      · exact absurd hplace (by simp)
    · exact absurd hplace (by simp)
  · rintro ⟨hnumber, hkind⟩
    exact place?_of_number hi hnumber hkind

/-- Showing or hiding something changes the flag at one place at most. -/
theorem setActive_records (s : SceneStore) (h : EmissionHandle) (active : Bool) (j : Nat) :
    (s.setActive h active).records[j]? = s.records[j]?.map fun r =>
      if (s.place? h).map Fin.val = some j then { r with active } else r := by
  rw [SceneStore.setActive]
  rcases s.place? h with - | i
  · simp
  · rcases eq_or_ne i.val j with hij | hij <;> simp [Array.getElem?_modify, hij]

theorem setActive_frame (s : SceneStore) (h : EmissionHandle) (active : Bool) :
    (s.setActive h active).firstHandle = s.firstHandle ∧
      (s.setActive h active).records.size = s.records.size := by
  rw [SceneStore.setActive]
  rcases s.place? h with - | i
  · exact ⟨rfl, rfl⟩
  · exact ⟨rfl, Array.size_modify⟩

/-- Only creations are counted, and clearing does not forget them. -/
theorem created_perform (s : SceneStore) (q : SceneRequest) :
    (Scene.perform s q).created = s.created + q.isAdd.toNat := by
  cases q with
  | add e =>
    show (Scene.add s e).2.created = _
    simp [created, keep, SceneRequest.isAdd, Nat.add_assoc]
  | setActive h active =>
    obtain ⟨hfirst, hsize⟩ := s.setActive_frame h active
    show (s.setActive h active).created = _
    rw [created, hfirst, hsize]
    rfl
  | clear => rfl

theorem created_performAll (s : SceneStore) (rs : List SceneRequest) :
    (Scene.performAll s rs).created = s.created + rs.countP SceneRequest.isAdd := by
  induction rs generalizing s with
  | nil => rfl
  | cons q rs ih =>
    rw [Scene.performAll_cons, ih, created_perform, ← List.singleton_append, List.countP_append,
      SceneRequest.countP_isAdd_singleton, Nat.add_assoc]

end SceneStore

namespace StoredEmission

variable {r : StoredEmission}

theorem segment?_eq_some_iff {x : Segment} : r.segment? = some x ↔ r.emission = .segment x := by
  rw [segment?]
  split <;> simp [*]

theorem leaf?_eq_some_iff {l : Leaf} : r.leaf? = some l ↔ r.emission = .leaf l := by
  rw [leaf?]
  split <;> simp [*]

/-- Nothing is a segment and a leaf. -/
theorem not_both_kinds {g : SegmentHandle} {h : LeafHandle}
    (hg : r.hasKind (.segment g) = true) (hh : r.hasKind (.leaf h) = true) : False := by
  obtain ⟨x | l, active⟩ := r
  · exact Bool.noConfusion hh
  · exact Bool.noConfusion hg

end StoredEmission

/-- Handles of one kind are told apart by their numbers. -/
theorem EmissionHandle.eq_of_number {r : StoredEmission} {g h : EmissionHandle}
    (hg : r.hasKind g = true) (hh : r.hasKind h = true) (hnumber : g.number = h.number) :
    g = h := by
  rcases g with ⟨⟨m⟩⟩ | ⟨⟨m⟩⟩ <;> rcases h with ⟨⟨n⟩⟩ | ⟨⟨n⟩⟩
  · obtain rfl : m = n := hnumber
    rfl
  · exact (StoredEmission.not_both_kinds hg hh).elim
  · exact (StoredEmission.not_both_kinds hh hg).elim
  · obtain rfl : m = n := hnumber
    rfl

namespace Recorded

open SceneCall

/-- Taking something in is written down as a creation. -/
theorem exists_call_add {σ : Type} [Scene σ] (r : Recorded σ) (e : Emission) :
    ∃ c : SceneCall, (Scene.add r e).2.calls = r.calls ++ [c] ∧
      c.creation? = some ((Scene.add r.scene e).1, e) := by
  cases e with
  | segment x => exact ⟨_, rfl, rfl⟩
  | leaf l => exact ⟨_, rfl, rfl⟩

theorem scene_performAll {σ : Type} [Scene σ] (r : Recorded σ) (rs : List SceneRequest) :
    (Scene.performAll r rs).scene = Scene.performAll r.scene rs := by
  induction rs generalizing r with
  | nil => rfl
  | cons q rs ih =>
    have hstep : (Scene.perform r q).scene = Scene.perform r.scene q := by
      cases q with
      | add e => exact scene_add r e
      | setActive h active => rfl
      | clear => rfl
    rw [Scene.performAll_cons, ih, hstep]
    rfl

/-- The log has one call for every request, in order. -/
theorem map_request_performAll {σ : Type} [Scene σ] (r : Recorded σ) (rs : List SceneRequest) :
    (Scene.performAll r rs).calls.map request = r.calls.map request ++ rs := by
  induction rs generalizing r with
  | nil => exact (List.append_nil _).symm
  | cons q rs ih =>
    have hstep : (Scene.perform r q).calls.map request = r.calls.map request ++ [q] := by
      cases q with
      | add e =>
        obtain ⟨c, hcalls, hcreation⟩ := exists_call_add r e
        show (Scene.add r e).2.calls.map request = _
        rw [hcalls, List.map_append]
        obtain ⟨x, g, rfl, -, rfl⟩ | ⟨l, g, rfl, -, rfl⟩ := creation?_cases hcreation
        · rfl
        · rfl
      | setActive h active => exact List.map_append
      | clear => exact List.map_append
    rw [Scene.performAll_cons, ih, hstep, ← List.append_cons]

variable {r : Recorded SceneStore}

/-! ### What requests preserve -/

/-- The store keeps what the log tells: handles have been numbered from zero on, and each
creation since the last clearing has its place, with the flag of the log. -/
structure Keeps (r : Recorded SceneStore) : Prop where
  numbers : (handles r.calls).map (fun h => h.number.toNat) = List.range r.scene.created
  places : (ledger r.calls).map (fun c => c.1.number.toNat)
    = List.range' r.scene.firstHandle r.scene.records.size
  records : r.scene.records.toList
    = (ledger r.calls).map fun c => ⟨c.2, shown r.calls c.1⟩

namespace Keeps

theorem length_ledger (k : Keeps r) : (ledger r.calls).length = r.scene.records.size := by
  have hlength := congrArg List.length k.places
  rwa [List.length_map, List.length_range'] at hlength

/-- The creation that a place of the array is for. -/
theorem exists_entry (k : Keeps r) (i : Fin r.scene.records.size) :
    ∃ h e, (ledger r.calls)[i.val]? = some (h, e) ∧
      h.number.toNat = r.scene.firstHandle + i ∧
      r.scene.records[i] = ⟨e, shown r.calls h⟩ := by
  have hi : i.val < (ledger r.calls).length := by
    rw [k.length_ledger]
    exact i.isLt
  obtain ⟨⟨h, e⟩, hentry⟩ : ∃ c, (ledger r.calls)[i.val]? = some c :=
    ⟨_, List.getElem?_eq_getElem hi⟩
  refine ⟨h, e, hentry, ?_, ?_⟩
  · have hplace := congrArg (·[i.val]?) k.places
    simpa [hentry] using hplace
  · have hrecord := congrArg (·[i.val]?) k.records
    simpa [hentry] using hrecord

/-- A handle leads to a place exactly if the creation there has been given it. -/
theorem place?_eq_some_iff (k : Keeps r) {i : Fin r.scene.records.size} {g : EmissionHandle}
    {e : Emission} (hentry : (ledger r.calls)[i.val]? = some (g, e)) (h : EmissionHandle) :
    r.scene.place? h = some i ↔ h = g := by
  obtain ⟨g', e', hentry', hnumber, hrecord⟩ := k.exists_entry i
  obtain ⟨rfl, rfl⟩ := Prod.mk.inj (Option.some.inj (hentry'.symm.trans hentry))
  have hkind : r.scene.records[i].hasKind g' = true := by
    rw [hrecord]
    exact hasKind_of_mem_ledger (List.mem_of_getElem? hentry) _
  rw [SceneStore.place?_eq_some_iff i.isLt]
  constructor
  · rintro ⟨hplace, hkind'⟩
    refine EmissionHandle.eq_of_number hkind' hkind ?_
    exact UInt64.toNat_inj.mp (hplace.trans hnumber.symm)
  · rintro rfl
    exact ⟨hnumber, hkind⟩

/-- A handle of no creation since the last clearing leads nowhere. -/
theorem place?_eq_none (k : Keeps r) {h : EmissionHandle} (hnone : ∀ e, (h, e) ∉ ledger r.calls) :
    r.scene.place? h = none := by
  rcases hplace : r.scene.place? h with - | i
  · rfl
  · obtain ⟨g, e, hentry, -, -⟩ := k.exists_entry i
    obtain rfl := (k.place?_eq_some_iff hentry h).mp hplace
    exact absurd (List.mem_of_getElem? hentry) (hnone e)

theorem map_place?_eq_some_iff (k : Keeps r) {j : Nat} {g : EmissionHandle} {e : Emission}
    (hentry : (ledger r.calls)[j]? = some (g, e)) (h : EmissionHandle) :
    (r.scene.place? h).map Fin.val = some j ↔ h = g := by
  obtain ⟨hlt, -⟩ := List.getElem?_eq_some_iff.mp hentry
  rw [k.length_ledger] at hlt
  rw [← k.place?_eq_some_iff (i := ⟨j, hlt⟩) hentry h, Option.map_eq_some_iff]
  constructor
  · rintro ⟨i, hi, rfl⟩
    exact hi
  · intro hi
    exact ⟨_, hi, rfl⟩

/-- A creation since the last clearing is found by its handle. -/
theorem exists_place (k : Keeps r) {h : EmissionHandle} {e : Emission}
    (hmem : (h, e) ∈ ledger r.calls) :
    ∃ i, r.scene.place? h = some i ∧ r.scene.records[i] = ⟨e, shown r.calls h⟩ := by
  obtain ⟨j, hj⟩ := List.mem_iff_getElem?.mp hmem
  obtain ⟨hlt, -⟩ := List.getElem?_eq_some_iff.mp hj
  rw [k.length_ledger] at hlt
  obtain ⟨h', e', hentry, -, hrecord⟩ := k.exists_entry ⟨j, hlt⟩
  obtain ⟨rfl, rfl⟩ := Prod.mk.inj (Option.some.inj (hentry.symm.trans hj))
  exact ⟨⟨j, hlt⟩, (k.place?_eq_some_iff hentry h').mpr rfl, hrecord⟩

/-- Creations have had numbers that were given out. -/
theorem number_lt (k : Keeps r) {x : EmissionHandle × Emission} (hx : x ∈ ledger r.calls) :
    x.1.number.toNat < r.scene.created := by
  have hplace : x.1.number.toNat ∈ List.range' r.scene.firstHandle r.scene.records.size :=
    k.places ▸ List.mem_map_of_mem (f := fun x : EmissionHandle × Emission => x.1.number.toNat) hx
  rw [List.mem_range'_1] at hplace
  exact hplace.2

/-- A new store has an empty log. -/
theorem begin : Keeps (Recorded.begin SceneStore.empty) := ⟨rfl, rfl, rfl⟩

/-- Taking something in, while there is a number for it. -/
theorem add (k : Keeps r) (e : Emission) (hroom : r.scene.created < 2 ^ 64) :
    Keeps (Scene.add r e).2 := by
  obtain ⟨c, hcalls, hcreation⟩ := exists_call_add r e
  obtain ⟨hhandles, hledger, hshown⟩ := concat_of_creation? hcreation r.calls
  have hnumber : (Scene.add r.scene e).1.number.toNat = r.scene.created := by
    rw [SceneStore.number_add, SceneStore.nextHandle, UInt64.toNat_ofNat']
    rw [SceneStore.created] at hroom ⊢
    omega
  have hscene : (Scene.add r e).2.scene = r.scene.keep e := by
    rw [scene_add, SceneStore.add_snd]
  have hcreated : (r.scene.keep e).created = r.scene.created + 1 := by
    simp [SceneStore.created, SceneStore.keep, Nat.add_assoc]
  refine ⟨?_, ?_, ?_⟩
  · rw [hcalls, hscene, hhandles, hcreated, List.range_succ, List.map_append, k.numbers]
    simp [hnumber]
  · rw [hcalls, hscene, hledger, List.map_append, k.places]
    simp [hnumber, SceneStore.keep, SceneStore.created, List.range'_concat]
  · have hnew : shown (r.calls ++ [c]) (Scene.add r.scene e).1 = true := by simp [hshown]
    -- the number is new, so no flag of what is there changes
    have hold : ∀ x ∈ ledger r.calls, shown (r.calls ++ [c]) x.1 = shown r.calls x.1 := by
      intro x hx
      have hlt : x.1.number.toNat < r.scene.created := k.number_lt hx
      have hne : (Scene.add r.scene e).1 ≠ x.1 := by
        rintro heq
        rw [← heq, hnumber] at hlt
        exact Nat.lt_irrefl _ hlt
      simp [hshown, hne]
    have hsame : (ledger r.calls).map
          (fun x => (⟨x.2, shown (r.calls ++ [c]) x.1⟩ : StoredEmission))
        = r.scene.records.toList := by
      rw [k.records]
      exact List.map_congr_left fun x hx => by rw [hold x hx]
    rw [hcalls, hscene, hledger, List.map_append, hsame]
    simp [SceneStore.keep, hnew]

/-- Showing or hiding something. -/
theorem setActive (k : Keeps r) (h : EmissionHandle) (active : Bool) :
    Keeps (Scene.setActive r h active) := by
  have hshown : ∀ g, shown (r.calls ++ [.setActive h active]) g
      = if h = g then active else shown r.calls g := by
    intro g
    rw [shown_concat, flag?]
    split <;> rfl
  have hledger : ledger (r.calls ++ [.setActive h active]) = ledger r.calls := by
    rw [ledger_concat rfl]
    exact List.append_nil _
  have hcreated : handles (r.calls ++ [.setActive h active]) = handles r.calls := by
    rw [handles_append]
    exact List.append_nil _
  obtain ⟨hfirst, hsize⟩ := r.scene.setActive_frame h active
  refine ⟨?_, ?_, ?_⟩
  · show (handles (r.calls ++ [.setActive h active])).map _
      = List.range (r.scene.setActive h active).created
    rw [hcreated, SceneStore.created, hfirst, hsize]
    exact k.numbers
  · show (ledger (r.calls ++ [.setActive h active])).map _
      = List.range' (r.scene.setActive h active).firstHandle
        (r.scene.setActive h active).records.size
    rw [hledger, hfirst, hsize]
    exact k.places
  · show (r.scene.setActive h active).records.toList
      = (ledger (r.calls ++ [.setActive h active])).map
        fun c => ⟨c.2, shown (r.calls ++ [.setActive h active]) c.1⟩
    rw [hledger]
    refine List.ext_getElem? fun j => ?_
    rw [Array.getElem?_toList, SceneStore.setActive_records, ← Array.getElem?_toList, k.records,
      List.getElem?_map, List.getElem?_map]
    rcases hentry : (ledger r.calls)[j]? with - | ⟨g, e⟩
    · rfl
    · have hplace : (r.scene.place? h).map Fin.val = some j ↔ h = g :=
        k.map_place?_eq_some_iff hentry h
      simp only [Option.map_some, hplace, hshown]
      split <;> rfl

/-- Releasing everything. -/
theorem clear (k : Keeps r) : Keeps (Scene.clear r) := by
  have hledger : ledger (r.calls ++ [.clear]) = [] := by
    rw [ledger, recent, List.rtakeWhile_concat_neg _ _ _ (by simp [isClear])]
    rfl
  refine ⟨?_, ?_, ?_⟩
  · have hcreated : (Scene.clear r.scene).created = r.scene.created := Nat.add_zero _
    show (handles (r.calls ++ [.clear])).map _ = List.range (Scene.clear r.scene).created
    rw [hcreated, ← k.numbers, handles_append]
    simp [handles, created?]
  · show (ledger (r.calls ++ [.clear])).map _ = _
    rw [hledger]
    rfl
  · show _ = (ledger (r.calls ++ [.clear])).map _
    rw [hledger]
    rfl

/-- One request. -/
theorem perform (k : Keeps r) (q : SceneRequest)
    (hroom : r.scene.created + q.isAdd.toNat ≤ 2 ^ 64) : Keeps (Scene.perform r q) := by
  cases q with
  | add e => exact k.add e hroom
  | setActive h active => exact k.setActive h active
  | clear => exact k.clear

end Keeps

/-- **Requests keep a store and its log together**, up to `2 ^ 64` creations. -/
theorem keeps_performAll (rs : List SceneRequest)
    (hcount : rs.countP SceneRequest.isAdd ≤ 2 ^ 64) :
    Keeps (Scene.performAll (Recorded.begin SceneStore.empty) rs) := by
  induction rs using List.reverseRecOn with
  | nil => exact Keeps.begin
  | append_singleton rs q ih =>
    rw [List.countP_append, SceneRequest.countP_isAdd_singleton] at hcount
    rw [Scene.performAll, List.foldl_append]
    refine (ih (by omega)).perform q ?_
    show (Scene.performAll (Recorded.begin SceneStore.empty) rs).scene.created + _ ≤ _
    rw [scene_performAll, SceneStore.created_performAll]
    exact (Nat.zero_add _).symm ▸ hcount

/-! ### Queries -/

namespace Keeps

/-- A query for all of a kind, shown or hidden. -/
theorem filterMap_records (k : Keeps r) {α : Type} (f : Emission → Option α) :
    r.scene.records.toList.filterMap (fun x => f x.emission)
      = (ledger r.calls).filterMap fun c => f c.2 := by
  rw [k.records, List.filterMap_map]
  rfl

/-- A query for what is shown of a kind. -/
theorem filterMap_active (k : Keeps r) {α : Type} (f : Emission → Option α) :
    r.scene.active.filterMap (fun x => f x.emission)
      = ((ledger r.calls).filter fun c => shown r.calls c.1).filterMap fun c => f c.2 := by
  rw [SceneStore.active, k.records, List.filter_map, List.filterMap_map]
  rfl

/-- What a handle leads to is what it was given for. -/
theorem emission?_eq_some_iff (k : Keeps r) {h : EmissionHandle} {e : Emission} :
    (r.scene.place? h).map (fun i => r.scene.records[i].emission) = some e
      ↔ (h, e) ∈ ledger r.calls := by
  rw [Option.map_eq_some_iff]
  constructor
  · rintro ⟨i, hplace, rfl⟩
    obtain ⟨g, e, hentry, -, hrecord⟩ := k.exists_entry i
    obtain rfl := (k.place?_eq_some_iff hentry h).mp hplace
    rw [hrecord]
    exact List.mem_of_getElem? hentry
  · intro hmem
    obtain ⟨i, hplace, hrecord⟩ := k.exists_place hmem
    exact ⟨i, hplace, by rw [hrecord]⟩

theorem segment?_eq_some_iff (k : Keeps r) (h : SegmentHandle) (x : Segment) :
    r.scene.segment? h = some x ↔ (.segment h, .segment x) ∈ ledger r.calls := by
  rw [← k.emission?_eq_some_iff, SceneStore.segment?]
  rcases r.scene.place? (.segment h) with - | i
  · simp
  · simp [StoredEmission.segment?_eq_some_iff]

theorem leaf?_eq_some_iff (k : Keeps r) (h : LeafHandle) (l : Leaf) :
    r.scene.leaf? h = some l ↔ (.leaf h, .leaf l) ∈ ledger r.calls := by
  rw [← k.emission?_eq_some_iff, SceneStore.leaf?]
  rcases r.scene.place? (.leaf h) with - | i
  · simp
  · simp [StoredEmission.leaf?_eq_some_iff]

end Keeps

/-- **A store is the log of its calls.**  After any requests to a new store, at most `2 ^ 64`
of them creations, the calls written down are those requests, and the handles given out go up
from one call to the next.  What is shown or kept are the creations since the last clearing,
in order, those that are shown with the flag of the log, and a handle leads to what it was
given for since then.  Showing or hiding anything else makes no difference, then or later. -/
theorem refinesLog_performAll (rs : List SceneRequest)
    (hcount : rs.countP SceneRequest.isAdd ≤ 2 ^ 64) :
    let r := Scene.performAll (Recorded.begin SceneStore.empty) rs
    let s := Scene.performAll SceneStore.empty rs
    r.scene = s ∧ r.calls.map request = rs ∧
    ((handles r.calls).map EmissionHandle.number).Pairwise (· < ·) ∧
    (s.activeSegments = ((ledger r.calls).filter fun c => shown r.calls c.1).filterMap
      fun c => c.2.segment?) ∧
    (s.activeLeaves = ((ledger r.calls).filter fun c => shown r.calls c.1).filterMap
      fun c => c.2.leaf?) ∧
    (s.storedSegments = (ledger r.calls).filterMap fun c => c.2.segment?) ∧
    (s.storedLeaves = (ledger r.calls).filterMap fun c => c.2.leaf?) ∧
    (∀ h x, s.segment? h = some x ↔ (.segment h, .segment x) ∈ ledger r.calls) ∧
    (∀ h l, s.leaf? h = some l ↔ (.leaf h, .leaf l) ∈ ledger r.calls) ∧
    ∀ h, (∀ e, (h, e) ∉ ledger r.calls) → ∀ active more,
      Scene.performAll (Scene.setActive s h active) more = Scene.performAll s more := by
  intro r s
  have k : Keeps r := keeps_performAll rs hcount
  have hscene : r.scene = s := scene_performAll _ rs
  rw [← hscene]
  refine ⟨rfl, map_request_performAll _ rs, ?_, k.filterMap_active Emission.segment?,
    k.filterMap_active Emission.leaf?, k.filterMap_records Emission.segment?,
    k.filterMap_records Emission.leaf?, k.segment?_eq_some_iff, k.leaf?_eq_some_iff, ?_⟩
  · have hrange : ((handles r.calls).map fun h => h.number.toNat).Pairwise (· < ·) := by
      rw [k.numbers]
      exact List.pairwise_lt_range
    rw [List.pairwise_map] at hrange ⊢
    exact hrange.imp fun hlt => UInt64.lt_iff_toNat_lt.mpr hlt
  · intro h hnone active more
    have hsame : Scene.setActive r.scene h active = r.scene := by
      show r.scene.setActive h active = r.scene
      rw [SceneStore.setActive, k.place?_eq_none hnone]
    rw [hsame]

/-- Two segments before a clearing and two after it.  The last is hidden neither before its
handle was given out nor by a leaf of its number, and a stale handle leads nowhere. -/
theorem refinesLog_stale :
    let x : Nat → Segment := fun n => ⟨Vector3.zero, Vector3.up, Float32.ofNat n⟩
    let h : Nat → EmissionHandle := fun n => .segment ⟨UInt64.ofNat n⟩
    let rs : List SceneRequest := [.add (.segment (x 1)), .add (.segment (x 2)), .clear,
      .setActive (h 3) false, .add (.segment (x 3)), .add (.segment (x 4)), .setActive (h 2) false,
      .setActive (h 0) true, .setActive (.leaf ⟨3⟩) false]
    let s := Scene.performAll SceneStore.empty rs
    rs.countP SceneRequest.isAdd ≤ 2 ^ 64 ∧ s.activeSegments = [x 4] ∧
      s.segment? ⟨2⟩ = some (x 3) ∧ s.segment? ⟨0⟩ = none := by
  intro x h rs s
  have hcount : rs.countP SceneRequest.isAdd ≤ 2 ^ 64 := by decide +kernel
  obtain ⟨-, -, -, hactive, -, -, -, hsegment, -, -⟩ := refinesLog_performAll rs hcount
  have hledger : ledger (Scene.performAll (Recorded.begin SceneStore.empty) rs).calls
      = [(h 2, .segment (x 3)), (h 3, .segment (x 4))] := by decide +kernel
  refine ⟨hcount, hactive.trans (by decide +kernel), (hsegment ⟨2⟩ (x 3)).mpr ?_, ?_⟩
  · rw [hledger]
    exact List.mem_cons_self
  · refine Option.eq_none_iff_forall_ne_some.mpr fun y hy => ?_
    have hmem := (hsegment ⟨0⟩ y).mp hy
    rw [hledger] at hmem
    simp [h] at hmem

end Recorded

end TurtleTree
