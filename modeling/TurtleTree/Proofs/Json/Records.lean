/-
TurtleTree/Proofs/Json/Records.lean

Records are found again in their written form.

A record is written as an object with its fields in order.  Each field is found
by its name as long as no other has the same (`Json.single?_of_mem`), and names
without escapes are the text they are written as (`Json.PlainNames`).

Main result: the fields of a written record are the values it was written with
(`Json.fields?_record`).
-/
import TurtleTree.Json.Record
import TurtleTree.Proofs.Elementwise
import TurtleTree.Proofs.Json.RoundTrip

namespace TurtleTree

namespace Json

/-! ### Fields -/

/-- The names of fields can be written as they are and are read back. -/
def PlainNames (names : List String) : Prop :=
  ∀ name ∈ names, PlainChars (plain name) ∧ text? (plain name) = some name

theorem writable_record {names : List String} {values : List Json} (hnames : PlainNames names)
    (hvalues : ∀ value ∈ values, Writable value) : Writable (record (names.zip values)) := by
  show WritableMembers ((names.zip values).map fun m => (plain m.1, m.2))
  induction names generalizing values with
  | nil => trivial
  | cons name names ih =>
    rcases values with - | ⟨value, values⟩
    · trivial
    · refine ⟨(hnames name List.mem_cons_self).1, hvalues value List.mem_cons_self, ?_⟩
      exact ih (fun n hn => hnames n (List.mem_cons_of_mem _ hn))
        fun v hv => hvalues v (List.mem_cons_of_mem _ hv)

theorem namedMembers?_record {names : List String} (hnames : PlainNames names)
    (values : List Json) :
    namedMembers? ((names.zip values).map fun m => (plain m.1, m.2))
      = some (names.zip values) := by
  induction names generalizing values with
  | nil => rfl
  | cons name names ih =>
    rcases values with - | ⟨value, values⟩
    · rfl
    · have hrest := ih (fun n hn => hnames n (List.mem_cons_of_mem _ hn)) values
      have htext : (text? (plain name)).map (·, value) = some (name, value) := by
        rw [(hnames name List.mem_cons_self).2]
        rfl
      rw [namedMembers?] at hrest ⊢
      rw [List.zip_cons_cons, List.map_cons, List.mapM_cons, hrest]
      simp only [htext]
      rfl

/-- Of members with distinct names one at most has a given name. -/
theorem filter_eq_singleton {members : List (String × Json)}
    (hdistinct : (members.map Prod.fst).Nodup) {name : String} {value : Json}
    (hmem : (name, value) ∈ members) :
    members.filter (fun m => m.1 == name) = [(name, value)] := by
  induction members with
  | nil => exact absurd hmem List.not_mem_nil
  | cons m members ih =>
    obtain ⟨n, v⟩ := m
    rw [List.map_cons, List.nodup_cons] at hdistinct
    -- the first name does not come again, whatever stands beside it
    have hother : ∀ w, (n, w) ∉ members := fun w hw =>
      hdistinct.1 (List.mem_map.mpr ⟨(n, w), hw, rfl⟩)
    rcases List.mem_cons.mp hmem with heq | hmem
    · obtain ⟨rfl, rfl⟩ := Prod.mk.inj heq
      have hnone : members.filter (fun m => m.1 == name) = [] := by
        rw [List.filter_eq_nil_iff]
        rintro ⟨k, w⟩ hm heq
        obtain rfl : k = name := eq_of_beq heq
        exact hother w hm
      rw [List.filter_cons_of_pos (by simp), hnone]
    · have hne : n ≠ name := by
        rintro rfl
        exact hother value hmem
      rw [List.filter_cons_of_neg (by simp [hne]), ih hdistinct.2 hmem]

/-- A field is found by its name, if no other has the same. -/
theorem single?_of_mem {members : List (String × Json)} (hdistinct : (members.map Prod.fst).Nodup)
    {name : String} {value : Json} (hmem : (name, value) ∈ members) :
    single? members name = some (some value) := by
  rw [single?, filter_eq_singleton hdistinct hmem]

/-- Names that are all found yield the values they stand beside. -/
theorem mapM_of_forall_mem_zip {f : String → Option (Option Json)} {names : List String}
    {values : List Json} (hlength : names.length = values.length)
    (hfound : ∀ m ∈ names.zip values, f m.1 = some (some m.2)) :
    names.mapM f = some (values.map some) := by
  rw [mapM_eq_some_iff, List.forall₂_map_right_iff, List.forall₂_iff_zip]
  exact ⟨hlength, fun hm => hfound _ hm⟩

/-- **The fields of a written record** are the values it was written with. -/
theorem fields?_record {names : List String} {values : List Json} (form : RecordForm)
    (hnames : PlainNames names) (hdistinct : names.Nodup) (hlength : names.length = values.length) :
    fields? form names (record (names.zip values)) = some (values.map some) := by
  have hkeys : ((names.zip values).map Prod.fst).Nodup := by
    rw [List.map_fst_zip (Nat.le_of_eq hlength)]
    exact hdistinct
  show (namedMembers? ((names.zip values).map fun m => (plain m.1, m.2))).bind
    (fun members => names.mapM (single? members)) = _
  rw [namedMembers?_record hnames, Option.bind_some]
  exact mapM_of_forall_mem_zip hlength fun m hm => single?_of_mem hkeys hm

/-! ### Integers -/

theorem toUInt32?_ofNat (n : UInt32) : toUInt32? (ofNat n.toNat) = some n := by
  have hbounds : ((0 : Int) ≤ (n.toNat : Int) && (n.toNat : Int) ≤ 2 ^ 32 - 1) = true := by
    have := n.toNat_lt
    rw [Bool.and_eq_true, decide_eq_true_eq, decide_eq_true_eq]
    omega
  have hvalue : UInt32.ofNat (n.toNat : Int).toNat = n := by simp
  have hint : toInt? (ofNat n.toNat) = some (n.toNat : Int) := JsonNumber.toInt?_ofInt _
  rw [toUInt32?, toIntWithin?, hint]
  simp only [Option.filter_some, hbounds, if_true, Option.map_some,
    hvalue]

theorem toInt32?_ofInt (i : Int32) : toInt32? (ofInt i.toInt) = some i := by
  have hbounds : (-(2 ^ 31) ≤ i.toInt && i.toInt ≤ 2 ^ 31 - 1) = true := by
    have := i.le_toInt
    have := i.toInt_lt
    rw [Bool.and_eq_true, decide_eq_true_eq, decide_eq_true_eq]
    omega
  have hint : toInt? (ofInt i.toInt) = some i.toInt := JsonNumber.toInt?_ofInt _
  rw [toInt32?, toIntWithin?, hint]
  simp only [Option.filter_some, hbounds, if_true, Option.map_some,
    Int32.ofInt_toInt]

end Json

end TurtleTree
