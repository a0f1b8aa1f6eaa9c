/-
TurtleTree/Proofs/Exchange/Parameters.lean

Parameters are found again in their JSON form, up to what becomes of measures.

Numbers, flags and the rule set come back as they were.  A measure comes back as
whatever its written form is read as: a number that is not finite is written as
`null`, which is not a number, and a finite one has to be read back by its own
digits (`Parameters.reread?`).

Main result: the text of parameters is read as these parameters with every
measure written and read (`Parameters.parse?_compact`).
-/
import TurtleTree.Exchange.Records
import TurtleTree.Proofs.Json.Records

namespace TurtleTree

namespace Single

/-- The number is neither infinite nor undefined. -/
def IsFinite (x : Float32) : Prop := (x.isNaN || x.isInf) = false

/-- The written form of the number is read as the number itself. -/
def ReadsAsItself (x : Float32) : Prop := (JsonNumber.ofSingle x).toSingle? = some x

/-- What the number is read as after it was written. -/
def reread? (x : Float32) : Option Float32 := (Json.ofSingle x).toSingle?

variable {x : Float32}

theorem reread?_of_isFinite (hfinite : IsFinite x) (hread : ReadsAsItself x) :
    reread? x = some x := by
  rw [reread?, Json.ofSingle, hfinite, if_neg Bool.false_ne_true]
  exact hread

/-- What is not finite is written as `null`, and that is no number. -/
theorem reread?_of_not_isFinite (h : ¬ IsFinite x) : reread? x = none := by
  rw [IsFinite, Bool.not_eq_false] at h
  rw [reread?, Json.ofSingle, if_pos h]
  rfl

end Single

namespace Parameters

/-- The parameters after every measure was written and read. -/
def reread? (p : Parameters) : Option Parameters := do
  some { p with
    angle := ← Single.reread? p.angle
    branchLength := ← Single.reread? p.branchLength
    branchWidth := ← Single.reread? p.branchWidth
    leafLength := ← Single.reread? p.leafLength
    leafStartWidth := ← Single.reread? p.leafStartWidth
    leafEndWidth := ← Single.reread? p.leafEndWidth }

theorem reread?_of_forall {p : Parameters} (h : ∀ x ∈ p.measures, Single.reread? x = some x) :
    p.reread? = some p := by
  simp only [measures, List.forall_mem_cons] at h
  obtain ⟨hangle, hlength, hwidth, hleaf, hstart, hend, -⟩ := h
  simp only [reread?, hangle, hlength, hwidth, hleaf, hstart, hend]
  rfl

/-- Nothing but measures changes, and every measure has been read. -/
theorem eq_of_reread? {p q : Parameters} (h : p.reread? = some q) :
    q.iterations = p.iterations ∧ ∀ x ∈ p.measures, Single.reread? x ≠ none := by
  simp only [reread?, Option.bind_eq_bind, Option.bind_eq_some_iff] at h
  obtain ⟨angle, hangle, length, hlength, width, hwidth, leaf, hleaf, start, hstart, finish,
    hfinish, heq⟩ := h
  refine ⟨by rw [← Option.some.inj heq], ?_⟩
  simp only [measures, List.forall_mem_cons, hangle, hlength, hwidth, hleaf, hstart, hfinish]
  simp

/-! ### Written parameters -/

theorem plainNames_fieldNames : Json.PlainNames fieldNames := by
  rw [Json.PlainNames]
  decide +kernel

theorem writable_toJson (p : Parameters) : Json.Writable p.toJson := by
  have hsingle : ∀ x, Json.Writable (Json.ofSingle x) := by
    intro x
    rw [Json.ofSingle]
    split
    · trivial
    · exact JsonNumber.writable_ofSingle x
  have hint : ∀ n : Int, Json.Writable (.number (JsonNumber.ofInt n)) := JsonNumber.writable_ofInt
  refine Json.writable_record plainNames_fieldNames ?_
  simp only [fieldValues, List.forall_mem_cons]
  exact ⟨hint _, hint _, hsingle _, hsingle _, hsingle _, hsingle _, hsingle _, hsingle _,
    trivial, hint _, trivial, trivial, fun v hv => absurd hv List.not_mem_nil⟩

theorem ofFields?_fieldValues (p : Parameters) :
    ofFields? (p.fieldValues.map some) = p.reread? := by
  have hrule : RuleSetId.ofJson? p.ruleSet.toJson = some p.ruleSet := by
    rw [RuleSetId.ofJson?, RuleSetId.toJson, Json.toUInt32?_ofNat]
    rfl
  simp only [fieldValues, List.map_cons, List.map_nil, ofFields?, Json.defaulted?, hrule,
    Json.toUInt32?_ofNat, Json.toInt32?_ofInt, Json.toBool?]
  rfl

/-- **Parameters are read back from their text**, with every measure written and read. -/
theorem parse?_compact (p : Parameters) :
    parse? (Octets.ofChars p.toJson.compact) = p.reread? := by
  rw [parse?, Json.compact, Json.parse?_write .compact p.writable_toJson, Option.bind_some,
    ofJson?, toJson, Json.fields?_record .partly plainNames_fieldNames (by decide +kernel) rfl,
    Option.bind_some, ofFields?_fieldValues]

end Parameters

end TurtleTree
