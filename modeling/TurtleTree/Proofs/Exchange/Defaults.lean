/-
TurtleTree/Proofs/Exchange/Defaults.lean

The parameters that a JSON text describes.

A record may be an object or an array, and need not have all fields.  What it has for a
field is said without reading it (`Json.HasField`), and reading finds just that
(`Json.fields?_eq_some_iff`).  So parameters are read from a text exactly if it describes
them: each of them is the value of its field, or the standard one if the field is left out
(`Parameters.parse?_eq_some_iff`).

Main results: that equivalence, and that parameters whose names are no keys of an object are
standard (`Parameters.standardElsewhere_of_parse?`).
-/
import TurtleTree.Exchange.Records
import TurtleTree.Proofs.Elementwise

namespace TurtleTree

namespace Json

/-! ### Fields of a record -/

/-- The values that an object has under a name. -/
def under (members : List (List Char × Json)) (name : String) : List Json :=
  (members.filter fun m => text? m.1 == some name).map Prod.snd

/-- What a record has for a name, if it has anything: an object the only value under it, an
array the value at its place among the names. -/
def HasField (names : List String) : Json → String → Option Json → Prop
  | .object members, name, field => under members name = field.toList
  | .array items, name, field => items[names.idxOf name]? = field
  | _, _, _ => False

/-- The keys of an object are texts, and an array has no more values than there are names.
Nothing else is a record. -/
def IsRecord (names : List String) : Json → Prop
  | .object members => ∀ m ∈ members, (text? m.1).isSome = true
  | .array items => items.length ≤ names.length
  | _ => False

variable {names : List String} {name : String} {field : Option Json} {fields : List (Option Json)}
  {members : List (List Char × Json)} {named : List (String × Json)} {items : List Json}

/-! ### Objects -/

/-- The values are the same, whether or not the keys were read before. -/
theorem under_eq (h : namedMembers? members = some named) (name : String) :
    under members name = (named.filter fun m => m.1 == name).map Prod.snd := by
  have hpairs := mapM_eq_some_iff.mp h
  clear h
  induction hpairs with
  | nil => rfl
  | @cons m n members named hkey _ ih =>
    obtain ⟨text, htext, rfl⟩ := Option.map_eq_some_iff.mp hkey
    rw [under] at ih ⊢
    by_cases heq : text = name
    · rw [List.filter_cons_of_pos (by simp [htext, heq]), List.filter_cons_of_pos (by simp [heq]),
        List.map_cons, List.map_cons, ih]
    · rw [List.filter_cons_of_neg (by simp [htext, heq]), List.filter_cons_of_neg (by simp [heq]),
        ih]

theorem single?_eq_some_iff : single? named name = some field ↔
    (named.filter fun m => m.1 == name).map Prod.snd = field.toList := by
  rw [single?]
  generalize named.filter (fun m => m.1 == name) = found
  rcases found with - | ⟨m, - | ⟨m', rest⟩⟩ <;> cases field <;> simp

theorem fields?_object_iff : fields? .partly names (.object members) = some fields ↔
    IsRecord names (.object members) ∧
      List.Forall₂ (HasField names (.object members)) names fields := by
  have hkeys : IsRecord names (.object members) ↔ (namedMembers? members).isSome = true := by
    rw [namedMembers?, isSome_mapM_iff]
    simp only [IsRecord, Option.isSome_map]
  rw [fields?, hkeys]
  rcases hnamed : namedMembers? members with - | named
  · simp
  · simp only [Option.bind_some, Option.isSome_some, true_and, mapM_eq_some_iff,
      single?_eq_some_iff, ← under_eq hnamed]
    exact Iff.rfl

/-! ### Arrays -/

/-- A name stands at the place of its value, and has none if the array ends before it. -/
theorem map_getElem?_idxOf (hnames : names.Nodup) (h : items.length ≤ names.length) :
    names.map (fun name => items[names.idxOf name]?)
      = items.map some ++ List.replicate (names.length - items.length) none := by
  refine List.ext_getElem (by simp [h]) fun i hi _ => ?_
  rw [List.length_map] at hi
  rw [List.getElem_map, hnames.idxOf_getElem, List.getElem_append]
  split
  · simp
  · next hend =>
    rw [List.length_map, Nat.not_lt] at hend
    rw [List.getElem_replicate, List.getElem?_eq_none hend]

theorem fields?_array_iff (hnames : names.Nodup) :
    fields? .partly names (.array items) = some fields ↔
      IsRecord names (.array items) ∧
        List.Forall₂ (HasField names (.array items)) names fields := by
  have hplaces : List.Forall₂ (HasField names (.array items)) names fields
      ↔ names.map (fun name => items[names.idxOf name]?) = fields := by
    rw [← List.forall₂_eq_eq_eq, List.forall₂_map_left_iff]
    exact Iff.rfl
  by_cases h : items.length ≤ names.length
  · have hform : items.length = names.length ∨
        RecordForm.partly = .partly ∧ items.length < names.length :=
      (Nat.eq_or_lt_of_le h).imp_right fun hlt => ⟨rfl, hlt⟩
    rw [fields?, if_pos hform, Option.some.injEq, hplaces, map_getElem?_idxOf hnames h]
    exact (and_iff_right h).symm
  · rw [fields?, if_neg (by omega)]
    exact iff_of_false nofun fun hrecord => h hrecord.1

/-- **Reading finds what a record has.** -/
theorem fields?_eq_some_iff (hnames : names.Nodup) {j : Json} :
    fields? .partly names j = some fields ↔
      IsRecord names j ∧ List.Forall₂ (HasField names j) names fields := by
  cases j with
  | object members => exact fields?_object_iff
  | array items => exact fields?_array_iff hnames
  | _ => exact iff_of_false nofun fun h => h.1

/-- An object has no value for a name that is no key of it. -/
theorem eq_none_of_hasField (h : HasField names (.object members) name field)
    (hleft : ∀ m ∈ members, text? m.1 ≠ some name) : field = none := by
  have hnone : members.filter (fun m => text? m.1 == some name) = [] :=
    List.filter_eq_nil_iff.mpr fun m hm heq => hleft m hm (eq_of_beq heq)
  rw [HasField, under, hnone] at h
  exact Option.toList_eq_nil_iff.mp h.symm

end Json

namespace Parameters

/-! ### Parameters that are described -/

/-- The record has a value under the name and it is read as `x`, or it has none and `x` is the
standard value. -/
def Gives {α : Type} (j : Json) (name : String) (read : Json → Option α) (standard x : α) : Prop :=
  (∃ value, Json.HasField fieldNames j name (some value) ∧ read value = some x) ∨
    Json.HasField fieldNames j name none ∧ x = standard

theorem gives_iff {α : Type} {j : Json} {name : String} {read : Json → Option α}
    {standard x : α} : Gives j name read standard x ↔
      ∃ field, Json.HasField fieldNames j name field ∧
        Json.defaulted? read standard field = some x := by
  constructor
  · rintro (⟨value, hfield, hread⟩ | ⟨hfield, rfl⟩)
    · exact ⟨some value, hfield, hread⟩
    · exact ⟨none, hfield, rfl⟩
  · rintro ⟨- | value, hfield, hread⟩
    · exact Or.inr ⟨hfield, (Option.some.inj hread).symm⟩
    · exact Or.inl ⟨value, hfield, hread⟩

/-- The value is a record, and every parameter is given under its name. -/
structure DescribedBy (p : Parameters) (j : Json) : Prop where
  record : Json.IsRecord fieldNames j
  ruleSet : Gives j "rule_set" RuleSetId.ofJson? standard.ruleSet p.ruleSet
  iterations : Gives j "iterations" Json.toUInt32? standard.iterations p.iterations
  angle : Gives j "angle" Json.toSingle? standard.angle p.angle
  branchLength : Gives j "branch_length" Json.toSingle? standard.branchLength p.branchLength
  branchWidth : Gives j "branch_width" Json.toSingle? standard.branchWidth p.branchWidth
  leafLength : Gives j "leaf_length" Json.toSingle? standard.leafLength p.leafLength
  leafStartWidth :
    Gives j "leaf_start_width" Json.toSingle? standard.leafStartWidth p.leafStartWidth
  leafEndWidth : Gives j "leaf_end_width" Json.toSingle? standard.leafEndWidth p.leafEndWidth
  randomMode : Gives j "random_mode" Json.toBool? standard.randomMode p.randomMode
  angleVariance : Gives j "angle_variance" Json.toInt32? standard.angleVariance p.angleVariance
  randomLeafColor :
    Gives j "random_leaf_color" Json.toBool? standard.randomLeafColor p.randomLeafColor
  growthObserved : Gives j "growth_observed" Json.toBool? standard.growthObserved p.growthObserved

/-- Parameters are made of twelve values, each of which is read or has the standard one to
fall back on. -/
theorem ofFields?_eq_some_iff {fields : List (Option Json)} {p : Parameters} :
    ofFields? fields = some p ↔
    ∃ ruleSet iterations angle length width leaf start finish random variance color observed,
      fields = [ruleSet, iterations, angle, length, width, leaf, start, finish, random, variance,
        color, observed] ∧
      Json.defaulted? RuleSetId.ofJson? standard.ruleSet ruleSet = some p.ruleSet ∧
      Json.defaulted? Json.toUInt32? standard.iterations iterations = some p.iterations ∧
      Json.defaulted? Json.toSingle? standard.angle angle = some p.angle ∧
      Json.defaulted? Json.toSingle? standard.branchLength length = some p.branchLength ∧
      Json.defaulted? Json.toSingle? standard.branchWidth width = some p.branchWidth ∧
      Json.defaulted? Json.toSingle? standard.leafLength leaf = some p.leafLength ∧
      Json.defaulted? Json.toSingle? standard.leafStartWidth start = some p.leafStartWidth ∧
      Json.defaulted? Json.toSingle? standard.leafEndWidth finish = some p.leafEndWidth ∧
      Json.defaulted? Json.toBool? standard.randomMode random = some p.randomMode ∧
      Json.defaulted? Json.toInt32? standard.angleVariance variance = some p.angleVariance ∧
      Json.defaulted? Json.toBool? standard.randomLeafColor color = some p.randomLeafColor ∧
      Json.defaulted? Json.toBool? standard.growthObserved observed = some p.growthObserved := by
  constructor
  · intro h
    unfold ofFields? at h
    split at h
    · simp only [Option.bind_eq_bind, Option.bind_eq_some_iff] at h
      obtain ⟨_, hrule, _, hiterations, _, hangle, _, hlength, _, hwidth, _, hleaf, _, hstart, _,
        hfinish, _, hrandom, _, hvariance, _, hcolor, _, hobserved, heq⟩ := h
      obtain rfl := Option.some.inj heq
      exact ⟨_, _, _, _, _, _, _, _, _, _, _, _, rfl, hrule, hiterations, hangle, hlength, hwidth,
        hleaf, hstart, hfinish, hrandom, hvariance, hcolor, hobserved⟩
    · cases h
  · rintro ⟨_, _, _, _, _, _, _, _, _, _, _, _, rfl, hrule, hiterations, hangle, hlength, hwidth,
      hleaf, hstart, hfinish, hrandom, hvariance, hcolor, hobserved⟩
    simp only [ofFields?, hrule, hiterations, hangle, hlength, hwidth, hleaf, hstart, hfinish,
      hrandom, hvariance, hcolor, hobserved, Option.bind_eq_bind, Option.bind_some]

/-- What holds of the names and values side by side holds of each name. -/
theorem forall₂_fieldNames {R : String → Option Json → Prop}
    {ruleSet iterations angle length width leaf start finish random variance color observed :
      Option Json} :
    List.Forall₂ R fieldNames [ruleSet, iterations, angle, length, width, leaf, start, finish,
        random, variance, color, observed] ↔
      R "rule_set" ruleSet ∧ R "iterations" iterations ∧ R "angle" angle ∧
      R "branch_length" length ∧ R "branch_width" width ∧ R "leaf_length" leaf ∧
      R "leaf_start_width" start ∧ R "leaf_end_width" finish ∧ R "random_mode" random ∧
      R "angle_variance" variance ∧ R "random_leaf_color" color ∧ R "growth_observed" observed := by
  simp only [fieldNames, List.forall₂_cons, List.forall₂_nil_left_iff, and_true]

theorem nodup_fieldNames : fieldNames.Nodup := by decide

/-- **Parameters are read from what describes them**, and from nothing else. -/
theorem ofJson?_eq_some_iff {j : Json} {p : Parameters} :
    ofJson? j = some p ↔ p.DescribedBy j := by
  constructor
  · intro h
    obtain ⟨fields, hfields, h⟩ := Option.bind_eq_some_iff.mp h
    obtain ⟨hrecord, hplaces⟩ := (Json.fields?_eq_some_iff nodup_fieldNames).mp hfields
    obtain ⟨_, _, _, _, _, _, _, _, _, _, _, _, rfl, hrule, hiterations, hangle, hlength, hwidth,
      hleaf, hstart, hfinish, hrandom, hvariance, hcolor, hobserved⟩ := ofFields?_eq_some_iff.mp h
    obtain ⟨hrule', hiterations', hangle', hlength', hwidth', hleaf', hstart', hfinish', hrandom',
      hvariance', hcolor', hobserved'⟩ := forall₂_fieldNames.mp hplaces
    exact {
      record := hrecord
      ruleSet := gives_iff.mpr ⟨_, hrule', hrule⟩
      iterations := gives_iff.mpr ⟨_, hiterations', hiterations⟩
      angle := gives_iff.mpr ⟨_, hangle', hangle⟩
      branchLength := gives_iff.mpr ⟨_, hlength', hlength⟩
      branchWidth := gives_iff.mpr ⟨_, hwidth', hwidth⟩
      leafLength := gives_iff.mpr ⟨_, hleaf', hleaf⟩
      leafStartWidth := gives_iff.mpr ⟨_, hstart', hstart⟩
      leafEndWidth := gives_iff.mpr ⟨_, hfinish', hfinish⟩
      randomMode := gives_iff.mpr ⟨_, hrandom', hrandom⟩
      angleVariance := gives_iff.mpr ⟨_, hvariance', hvariance⟩
      randomLeafColor := gives_iff.mpr ⟨_, hcolor', hcolor⟩
      growthObserved := gives_iff.mpr ⟨_, hobserved', hobserved⟩ }
  · intro h
    obtain ⟨_, hrule', hrule⟩ := gives_iff.mp h.ruleSet
    obtain ⟨_, hiterations', hiterations⟩ := gives_iff.mp h.iterations
    obtain ⟨_, hangle', hangle⟩ := gives_iff.mp h.angle
    obtain ⟨_, hlength', hlength⟩ := gives_iff.mp h.branchLength
    obtain ⟨_, hwidth', hwidth⟩ := gives_iff.mp h.branchWidth
    obtain ⟨_, hleaf', hleaf⟩ := gives_iff.mp h.leafLength
    obtain ⟨_, hstart', hstart⟩ := gives_iff.mp h.leafStartWidth
    obtain ⟨_, hfinish', hfinish⟩ := gives_iff.mp h.leafEndWidth
    obtain ⟨_, hrandom', hrandom⟩ := gives_iff.mp h.randomMode
    obtain ⟨_, hvariance', hvariance⟩ := gives_iff.mp h.angleVariance
    obtain ⟨_, hcolor', hcolor⟩ := gives_iff.mp h.randomLeafColor
    obtain ⟨_, hobserved', hobserved⟩ := gives_iff.mp h.growthObserved
    have hplaces : List.Forall₂ (Json.HasField fieldNames j) fieldNames _ :=
      forall₂_fieldNames.mpr ⟨hrule', hiterations', hangle', hlength', hwidth', hleaf', hstart',
        hfinish', hrandom', hvariance', hcolor', hobserved'⟩
    rw [ofJson?, (Json.fields?_eq_some_iff nodup_fieldNames).mpr ⟨h.record, hplaces⟩,
      Option.bind_some]
    exact ofFields?_eq_some_iff.mpr ⟨_, _, _, _, _, _, _, _, _, _, _, _, rfl, hrule, hiterations,
      hangle, hlength, hwidth, hleaf, hstart, hfinish, hrandom, hvariance, hcolor, hobserved⟩

theorem parse?_eq_some_iff {octets : List UInt8} {p : Parameters} :
    parse? octets = some p ↔ ∃ j, Json.parse? octets = some j ∧ p.DescribedBy j := by
  simp only [parse?, Option.bind_eq_some_iff, ofJson?_eq_some_iff]

/-! ### Parameters that are left out -/

/-- A parameter without a value has the standard one. -/
theorem forall₂_ofFields? {fields : List (Option Json)} {p : Parameters}
    (h : ofFields? fields = some p) :
    List.Forall₂ (fun field values => field = none → values.1 = values.2) fields
      (p.fieldValues.zip standard.fieldValues) := by
  have hnone : ∀ {α : Type} {read : Json → Option α} {d x : α} {field : Option Json},
      Json.defaulted? read d field = some x → field = none → x = d := by
    rintro α read d x field hx rfl
    exact (Option.some.inj hx).symm
  obtain ⟨_, _, _, _, _, _, _, _, _, _, _, _, rfl, hrule, hiterations, hangle, hlength, hwidth,
    hleaf, hstart, hfinish, hrandom, hvariance, hcolor, hobserved⟩ := ofFields?_eq_some_iff.mp h
  simp only [fieldValues, List.zip_cons_cons, List.forall₂_cons, List.zip_nil_left,
    List.forall₂_nil_left_iff]
  exact ⟨fun h => by rw [hnone hrule h], fun h => by rw [hnone hiterations h],
    fun h => by rw [hnone hangle h], fun h => by rw [hnone hlength h],
    fun h => by rw [hnone hwidth h], fun h => by rw [hnone hleaf h],
    fun h => by rw [hnone hstart h], fun h => by rw [hnone hfinish h],
    fun h => by rw [hnone hrandom h], fun h => by rw [hnone hvariance h],
    fun h => by rw [hnone hcolor h], fun h => by rw [hnone hobserved h], trivial⟩

/-- The octets are a JSON text, and if this is an object, each parameter whose name is no key
of it is the standard one. -/
def StandardElsewhere (p : Parameters) (octets : List UInt8) : Prop :=
  ∃ j, Json.parse? octets = some j ∧ ∀ members, j = .object members →
    ∀ field ∈ fieldNames.zip (p.fieldValues.zip standard.fieldValues),
      (∀ m ∈ members, Json.text? m.1 ≠ some field.1) → field.2.1 = field.2.2

/-- **Parameters that are left out are standard.** -/
theorem standardElsewhere_of_parse? {octets : List UInt8} {p : Parameters}
    (h : parse? octets = some p) : p.StandardElsewhere octets := by
  obtain ⟨j, hjson, h⟩ := Option.bind_eq_some_iff.mp h
  refine ⟨j, hjson, ?_⟩
  rintro members rfl ⟨name, v, w⟩ hmem hleft
  obtain ⟨fields, hfields, h⟩ := Option.bind_eq_some_iff.mp h
  obtain ⟨-, hplaces⟩ := (Json.fields?_eq_some_iff nodup_fieldNames).mp hfields
  obtain ⟨field, hfield, heq⟩ := exists_of_mem_zip hplaces (forall₂_ofFields? h) hmem
  exact heq (Json.eq_none_of_hasField hfield hleft)

end Parameters

end TurtleTree
