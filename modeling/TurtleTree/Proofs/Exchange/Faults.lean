/-
TurtleTree/Proofs/Exchange/Faults.lean

The texts that are share strings, and what is wrong with the others.

What a text has to be is said without reading it: a text in which a payload spells octets
(`Share.Carries`), and a list of faults, each of which a text has or has not
(`Share.Fault`).  A text may have several; they have an order (`ShareError.rank`).

The order is the one in which reading goes about: whenever a step of reading fails, the text
has the fault of this step, and none of the faults before it, since the steps before
succeeded (`Share.judged_decodeTrimmed`).  A text has one fault of a rank at most
(`Share.Fault.eq_of_rank_eq`), so the reason given is determined by the text alone.

Main result: reading succeeds for the texts that carry parameters with no more passes than
are supported, and fails with the first fault otherwise (`Share.decode_exact`).
-/
import TurtleTree.Proofs.Exchange.Defaults
import TurtleTree.Proofs.Exchange.Share
import TurtleTree.Proofs.Text.Spelling
import TurtleTree.Proofs.Text.Trimming

namespace TurtleTree

/-- Place of a reason in the order of the faults. -/
def ShareError.rank : ShareError → Nat
  | empty => 0
  | missingVersion => 1
  | missingPayload => 2
  | unknownName _ => 3
  | unknownVersion _ => 4
  | badEncoding => 5
  | badPayload => 6
  | tooManyIterations _ => 7

theorem ShareError.rank_lt (e : ShareError) : e.rank < 8 := by cases e <;> simp [rank]

namespace Share

/-! ### Texts and their faults -/

/-- A text with two colons or more has three parts, and the first two have no colons. -/
structure Parts (s first second third : List Char) : Prop where
  eq : s = first ++ ':' :: (second ++ ':' :: third)
  first_plain : ∀ c ∈ first, c ≠ ':'
  second_plain : ∀ c ∈ second, c ≠ ':'

/-- The text is the header with a spelling of octets behind it. -/
def Carries (s : List Char) (octets : List UInt8) : Prop :=
  ∃ symbols, s = "arbor:v1:".toList ++ symbols ∧ Base64.Spells symbols octets

/-- What can be wrong with a text that has no blanks around it. -/
inductive Fault (s : List Char) : ShareError → Prop
  | empty : s = [] → Fault s .empty
  | missingVersion : s.count ':' = 0 → Fault s .missingVersion
  | missingPayload : s.count ':' = 1 → Fault s .missingPayload
  | unknownName {first second third : List Char} : Parts s first second third →
      first ≠ name → Fault s (.unknownName (String.ofList first))
  | unknownVersion {first second third : List Char} : Parts s first second third →
      second ≠ version → Fault s (.unknownVersion (String.ofList second))
  | badEncoding {first second third : List Char} : Parts s first second third →
      (∀ octets, ¬ Base64.Spells third octets) → Fault s .badEncoding
  | badPayload {first second third : List Char} {octets : List UInt8} :
      Parts s first second third → Base64.Spells third octets →
      Parameters.parse? octets = none → Fault s .badPayload
  | tooManyIterations {first second third : List Char} {octets : List UInt8} {p : Parameters} :
      Parts s first second third → Base64.Spells third octets →
      Parameters.parse? octets = some p → Parameters.maxIterations < p.iterations →
      Fault s (.tooManyIterations p.iterations)

/-- The text has none of the first `n` faults. -/
def Clear (s : List Char) (n : Nat) : Prop := ∀ e, Fault s e → n ≤ e.rank

/-- What a result says about the text: that there is nothing wrong with it, or what its first
fault is. -/
def Judged (s : List Char) : Except ShareError Parameters → Prop
  | .ok p => (∃ octets, Carries s octets ∧ Parameters.parse? octets = some p ∧
      p.iterations ≤ Parameters.maxIterations) ∧ Clear s 8
  | .error e => Fault s e ∧ Clear s e.rank

/-! ### Parts -/

variable {s first second third : List Char}

theorem not_mem_of_count_eq_zero (h : s.count ':' = 0) : ∀ c ∈ s, c ≠ ':' :=
  fun _ hc heq => List.count_eq_zero.mp h (heq ▸ hc)

theorem count_eq_zero_of_forall_ne (h : ∀ c ∈ s, c ≠ ':') : s.count ':' = 0 :=
  List.count_eq_zero.mpr fun hc => h ':' hc rfl

/-- A text with a colon goes on behind the first one. -/
theorem exists_eq_append_colon (h : s.count ':' ≠ 0) :
    ∃ first rest, s = first ++ ':' :: rest ∧ (∀ c ∈ first, c ≠ ':') ∧
      s.count ':' = rest.count ':' + 1 := by
  have hmem : ':' ∈ s := List.count_pos_iff.mp (Nat.pos_of_ne_zero h)
  obtain ⟨first, rest, rfl, hfirst⟩ := List.eq_append_cons_of_mem hmem
  refine ⟨first, rest, rfl, fun c hc heq => hfirst (heq ▸ hc), ?_⟩
  rw [List.count_append, List.count_eq_zero.mpr hfirst, List.count_cons_self, Nat.zero_add]

theorem exists_parts (h0 : s.count ':' ≠ 0) (h1 : s.count ':' ≠ 1) :
    ∃ first second third, Parts s first second third := by
  obtain ⟨first, rest, rfl, hfirst, hcount⟩ := exists_eq_append_colon h0
  obtain ⟨second, third, rfl, hsecond, -⟩ := exists_eq_append_colon (s := rest) (by omega)
  exact ⟨first, second, third, rfl, hfirst, hsecond⟩

namespace Parts

theorem count_eq (h : Parts s first second third) : s.count ':' = third.count ':' + 2 := by
  rw [h.eq, List.count_append, List.count_cons_self, List.count_append, List.count_cons_self,
    count_eq_zero_of_forall_ne h.first_plain, count_eq_zero_of_forall_ne h.second_plain]
  omega

theorem ne_nil (h : Parts s first second third) : s ≠ [] := by
  rw [h.eq]
  exact List.append_ne_nil_of_right_ne_nil first (List.cons_ne_nil ':' _)

theorem split_eq (h : Parts s first second third) : split s = .ok (first, second, third) :=
  h.eq ▸ split_append third h.first_plain h.second_plain

/-- The parts of a text are determined. -/
theorem unique {first' second' third' : List Char} (h : Parts s first second third)
    (h' : Parts s first' second' third') :
    first' = first ∧ second' = second ∧ third' = third := by
  have heq : (first', second', third') = (first, second, third) :=
    Except.ok.inj (h'.split_eq.symm.trans h.split_eq)
  simpa only [Prod.mk.injEq] using heq

/-- Reading compares the first two parts, and reads the third. -/
theorem decodeTrimmed_eq (h : Parts s first second third) :
    decodeTrimmed s =
      if first ≠ name then .error (.unknownName (String.ofList first))
      else if second ≠ version then .error (.unknownVersion (String.ofList second))
      else decodePayload third := by
  have hnonempty : s.isEmpty = false := List.isEmpty_eq_false_iff.mpr h.ne_nil
  rw [decodeTrimmed, hnonempty, if_neg Bool.false_ne_true]
  simp only [h.split_eq]

end Parts

theorem dropWhile_colon (h : s.count ':' = 0) : s.dropWhile (· ≠ ':') = [] := by
  have hall : ∀ c ∈ s, decide (c ≠ ':') = true := fun c hc =>
    decide_eq_true (not_mem_of_count_eq_zero h c hc)
  have hdrop : (s ++ []).dropWhile (· ≠ ':') = [] := List.dropWhile_append_of_pos hall
  rwa [List.append_nil] at hdrop

theorem split_of_count_eq_zero (h : s.count ':' = 0) : split s = .error .missingVersion := by
  simp only [split, dropWhile_colon h]

theorem split_of_count_eq_one (h : s.count ':' = 1) : split s = .error .missingPayload := by
  obtain ⟨first, rest, rfl, hfirst, hcount⟩ := exists_eq_append_colon (s := s) (by omega)
  obtain ⟨-, hdrop⟩ := span_colon rest hfirst
  have hrest : rest.dropWhile (· ≠ ':') = [] := dropWhile_colon (by omega)
  simp only [split, hdrop, hrest]

/-! ### Payloads -/

/-- A spelling that is read is one of what it is read as. -/
theorem eq_of_spells {symbols : List Char} {octets octets' : List UInt8}
    (h : Base64.decode? symbols = some octets) (h' : Base64.Spells symbols octets') :
    octets' = octets := by
  have hsome := Base64.decode?_eq_some_iff_spells.mpr h'
  rw [h] at hsome
  exact (Option.some.inj hsome).symm

/-- A colon is no symbol. -/
theorem not_spells_of_colon {symbols : List Char} (h : ':' ∈ symbols) (octets : List UInt8) :
    ¬ Base64.Spells symbols octets := by
  have hcolon : ':' ∉ Base64.alphabet := by decide +kernel
  exact fun hspells => hcolon (hspells.mem_alphabet ':' h)

/-- A text that begins like a share string has the parts of one. -/
theorem parts_header (symbols : List Char) :
    Parts ("arbor:v1:".toList ++ symbols) name version symbols where
  eq := rfl
  first_plain := List.all_iff_forall_prop.mp (by decide)
  second_plain := List.all_iff_forall_prop.mp (by decide)

/-- Octets are carried in one way. -/
theorem Carries.unique {u : List Char} {octets : List UInt8} (hs : Carries s octets)
    (hu : Carries u octets) : s = u := by
  obtain ⟨symbols, rfl, hsymbols⟩ := hs
  obtain ⟨symbols', rfl, hsymbols'⟩ := hu
  rw [hsymbols.unique hsymbols']

/-! ### The order of the faults -/

/-- A text has one fault of a rank at most. -/
theorem Fault.eq_of_rank_eq {e e' : ShareError} (h : Fault s e) (h' : Fault s e')
    (hrank : e.rank = e'.rank) : e = e' := by
  cases h <;> cases h' <;> cases hrank
  case unknownName.unknownName hparts _ _ _ _ hparts' _ =>
    rw [(hparts.unique hparts').1]
  case unknownVersion.unknownVersion hparts _ _ _ _ hparts' _ =>
    rw [(hparts.unique hparts').2.1]
  case tooManyIterations.tooManyIterations hparts hoctets hp _ _ _ _ _ _ hparts' hoctets' hp' _ =>
    rw [(hparts.unique hparts').2.2] at hoctets'
    rw [eq_of_spells (Base64.decode?_eq_some_iff_spells.mpr hoctets) hoctets', hp] at hp'
    rw [Option.some.inj hp']
  -- the other reasons carry nothing
  all_goals rfl

theorem Clear.succ {n : Nat} (h : Clear s n) (hn : ∀ e, Fault s e → e.rank ≠ n) :
    Clear s (n + 1) := fun e he => Nat.lt_of_le_of_ne (h e he) (hn e he).symm

theorem clear_zero : Clear s 0 := fun _ _ => Nat.zero_le _

theorem clear_one (h : s ≠ []) : Clear s 1 := by
  refine clear_zero.succ fun e he hrank => ?_
  -- here and below the rank leaves one kind of fault, which the hypothesis excludes
  cases he <;> cases hrank
  case empty hempty => exact h hempty

theorem clear_two (h : s.count ':' ≠ 0) : Clear s 2 := by
  refine (clear_one (by rintro rfl; exact h rfl)).succ fun e he hrank => ?_
  cases he <;> cases hrank
  case missingVersion hnone => exact h hnone

namespace Parts

theorem clear_three (h : Parts s first second third) : Clear s 3 := by
  have hcount := h.count_eq
  refine (clear_two (by omega)).succ fun e he hrank => ?_
  cases he <;> cases hrank
  case missingPayload hone => omega

theorem clear_four (h : Parts s name second third) : Clear s 4 := by
  refine h.clear_three.succ fun e he hrank => ?_
  cases he <;> cases hrank
  case unknownName hparts hname => exact hname (h.unique hparts).1

theorem clear_five (h : Parts s name version third) : Clear s 5 := by
  refine h.clear_four.succ fun e he hrank => ?_
  cases he <;> cases hrank
  case unknownVersion hparts hversion => exact hversion (h.unique hparts).2.1

theorem clear_six {octets : List UInt8} (h : Parts s name version third)
    (hoctets : Base64.decode? third = some octets) : Clear s 6 := by
  refine h.clear_five.succ fun e he hrank => ?_
  cases he <;> cases hrank
  case badEncoding hparts hnone =>
    rw [(h.unique hparts).2.2] at hnone
    exact hnone octets (Base64.decode?_eq_some_iff_spells.mp hoctets)

theorem clear_seven {octets : List UInt8} {p : Parameters} (h : Parts s name version third)
    (hoctets : Base64.decode? third = some octets) (hp : Parameters.parse? octets = some p) :
    Clear s 7 := by
  refine (h.clear_six hoctets).succ fun e he hrank => ?_
  cases he <;> cases hrank
  case badPayload hparts hspells hnone =>
    rw [(h.unique hparts).2.2] at hspells
    rw [eq_of_spells hoctets hspells, hp] at hnone
    cases hnone

theorem clear_eight {octets : List UInt8} {p : Parameters} (h : Parts s name version third)
    (hoctets : Base64.decode? third = some octets) (hp : Parameters.parse? octets = some p)
    (hfew : p.iterations ≤ Parameters.maxIterations) : Clear s 8 := by
  refine (h.clear_seven hoctets hp).succ fun e he hrank => ?_
  cases he <;> cases hrank
  case tooManyIterations hparts hspells hsome hmany =>
    rw [(h.unique hparts).2.2] at hspells
    rw [eq_of_spells hoctets hspells, hp] at hsome
    rw [← Option.some.inj hsome] at hmany
    exact UInt32.not_lt.mpr hfew hmany

/-! ### Reading goes by the order -/

/-- The payload behind the header is judged. -/
theorem judged_decodePayload (h : Parts s name version third) : Judged s (decodePayload third) := by
  rw [decodePayload]
  rcases hoctets : Base64.decode? third with - | octets
  · exact ⟨.badEncoding h (Base64.decode?_eq_none_iff_forall_not_spells.mp hoctets), h.clear_five⟩
  have hspells := Base64.decode?_eq_some_iff_spells.mp hoctets
  rcases hp : Parameters.parse? octets with - | p
  · simp only [hp]
    exact ⟨.badPayload h hspells hp, h.clear_six hoctets⟩
  simp only [hp]
  by_cases hmany : Parameters.maxIterations < p.iterations
  · rw [if_pos hmany]
    exact ⟨.tooManyIterations h hspells hp hmany, h.clear_seven hoctets hp⟩
  · have hfew := UInt32.not_lt.mp hmany
    rw [if_neg hmany]
    exact ⟨⟨octets, ⟨third, h.eq, hspells⟩, hp, hfew⟩, h.clear_eight hoctets hp hfew⟩

theorem judged_decodeTrimmed (h : Parts s first second third) : Judged s (decodeTrimmed s) := by
  rw [h.decodeTrimmed_eq]
  by_cases hname : first = name
  · subst hname
    rw [if_neg (not_not_intro rfl)]
    by_cases hversion : second = version
    · subst hversion
      rw [if_neg (not_not_intro rfl)]
      exact h.judged_decodePayload
    · rw [if_pos hversion]
      exact ⟨.unknownVersion h hversion, h.clear_four⟩
  · rw [if_pos hname]
    exact ⟨.unknownName h hname, h.clear_three⟩

end Parts

/-- **What reading says about a text is so.** -/
theorem judged_decodeTrimmed (s : List Char) : Judged s (decodeTrimmed s) := by
  by_cases hempty : s = []
  · subst hempty
    exact ⟨.empty rfl, clear_zero⟩
  have hnonempty : s.isEmpty = false := List.isEmpty_eq_false_iff.mpr hempty
  by_cases hnone : s.count ':' = 0
  · rw [decodeTrimmed, hnonempty, if_neg Bool.false_ne_true]
    simp only [split_of_count_eq_zero hnone]
    exact ⟨.missingVersion hnone, clear_one hempty⟩
  by_cases hone : s.count ':' = 1
  · rw [decodeTrimmed, hnonempty, if_neg Bool.false_ne_true]
    simp only [split_of_count_eq_one hone]
    exact ⟨.missingPayload hone, clear_two hnone⟩
  obtain ⟨first, second, third, hparts⟩ := exists_parts hnone hone
  exact hparts.judged_decodeTrimmed

theorem judged_decode (text : String) : Judged (trim text.toList) (decode text) :=
  judged_decodeTrimmed (trim text.toList)

/-- **What is read carries parameters**, and what carries parameters is read. -/
theorem decode_eq_ok_iff {text : String} {p : Parameters} :
    decode text = .ok p ↔ ∃ octets, Carries (trim text.toList) octets ∧
      Parameters.parse? octets = some p ∧ p.iterations ≤ Parameters.maxIterations := by
  have hjudged := judged_decode text
  constructor
  · intro h
    rw [h] at hjudged
    exact hjudged.1
  · rintro ⟨octets, ⟨symbols, htext, hspells⟩, hp, hfew⟩
    rw [decode, htext, (parts_header symbols).decodeTrimmed_eq, if_neg (not_not_intro rfl),
      if_neg (not_not_intro rfl), decodePayload, Base64.decode?_eq_some_iff_spells.mpr hspells]
    simp only [hp, if_neg (UInt32.not_lt.mpr hfew)]

/-- **What is refused is refused for its first fault.** -/
theorem decode_eq_error_iff {text : String} {e : ShareError} :
    decode text = .error e ↔ Fault (trim text.toList) e ∧
      ∀ e', Fault (trim text.toList) e' → e.rank ≤ e'.rank := by
  have hjudged := judged_decode text
  constructor
  · intro h
    rw [h] at hjudged
    exact hjudged
  · rintro ⟨he, hfirst⟩
    rcases hread : decode text with e' | p
    · -- both are the first
      rw [hread] at hjudged
      obtain ⟨he', hfirst'⟩ := hjudged
      rw [he'.eq_of_rank_eq he (Nat.le_antisymm (hfirst' e he) (hfirst e' he'))]
    · rw [hread] at hjudged
      exact absurd (hjudged.2 e he) (Nat.not_le.mpr e.rank_lt)

/-- With a third colon the payload is no base64, whatever else may be wrong. -/
theorem fault_badEncoding (h : 2 < s.count ':') : Fault s .badEncoding := by
  obtain ⟨first, second, third, hparts⟩ := exists_parts (s := s) (by omega) (by omega)
  have hcount := hparts.count_eq
  have hcolon : ':' ∈ third := List.count_pos_iff.mp (by omega)
  exact .badEncoding hparts (not_spells_of_colon hcolon)

/-- **Exactly the share strings are read.**  A text has one part `s` without blanks around it.
The text is read if `s` is the header and the one spelling in base64 of octets that are
parameters with no more passes than are supported.  Octets are parameters if they are the JSON
text of a record in which each parameter is the value under its name, or the standard one if
there is none; parameters that an object leaves out are standard.  Any other text is refused
for the first of the faults of `s`.  Further colons belong to the payload, so it is not base64.
Two texts that carry the same octets differ in the blanks around them only. -/
theorem decode_exact (v : String) : ∃ s, (∀ u, Trimmed v.toList u ↔ u = s) ∧
    (∀ p, decode v = .ok p ↔ ∃ octets, Carries s octets ∧ Parameters.parse? octets = some p ∧
      p.iterations ≤ Parameters.maxIterations) ∧
    (∀ p octets, Parameters.parse? octets = some p ↔
      ∃ j, Json.parse? octets = some j ∧ p.DescribedBy j) ∧
    (∀ p octets, Parameters.parse? octets = some p → p.StandardElsewhere octets) ∧
    (∀ e, decode v = .error e ↔ Fault s e ∧ ∀ e', Fault s e' → e.rank ≤ e'.rank) ∧
    (2 < s.count ':' → Fault s .badEncoding) ∧
    (∀ symbols, s = "arbor:v1:".toList ++ symbols → ':' ∈ symbols →
      decode v = .error .badEncoding) ∧
    ∀ (w : String) u octets, Trimmed w.toList u → Carries s octets → Carries u octets →
      Trimmed w.toList s := by
  refine ⟨trim v.toList, fun u => trim_eq_iff.symm.trans eq_comm,
    fun p => decode_eq_ok_iff, fun p octets => Parameters.parse?_eq_some_iff,
    fun p octets => Parameters.standardElsewhere_of_parse?,
    fun e => decode_eq_error_iff, fault_badEncoding, ?_, ?_⟩
  · intro symbols hs hcolon
    have hparts : Parts (trim v.toList) name version symbols := hs ▸ parts_header symbols
    exact decode_eq_error_iff.mpr
      ⟨.badEncoding hparts (not_spells_of_colon hcolon), hparts.clear_five⟩
  · intro w u octets hw hs hu
    rw [hs.unique hu]
    exact hw

/-- An empty object between blanks is the standard parameters, and with another colon it is
nothing. -/
theorem decode_exact_braces :
    decode " arbor:v1:e30\n" = .ok Parameters.standard ∧
      decode "arbor:v1:e30:" = .error .badEncoding := by
  obtain ⟨s, htrim, haccept, -⟩ := decode_exact " arbor:v1:e30\n"
  obtain ⟨s', htrim', -, -, -, -, -, hcolon, -⟩ := decode_exact "arbor:v1:e30:"
  have hs : s = "arbor:v1:e30".toList :=
    ((htrim _).mp (trim_eq_iff.mp (by decide +kernel))).symm
  have hs' : s' = "arbor:v1:e30:".toList :=
    ((htrim' _).mp (trim_eq_iff.mp (by decide +kernel))).symm
  have hspells : Base64.Spells "e30".toList [123, 125] :=
    Base64.decode?_eq_some_iff_spells.mp (by decide +kernel)
  have hparse : Parameters.parse? [123, 125] = some Parameters.standard := by decide +kernel
  exact ⟨(haccept _).mpr
      ⟨[123, 125], ⟨_, hs.trans (by decide +kernel), hspells⟩, hparse, by decide⟩,
    hcolon "e30:".toList (hs'.trans (by decide +kernel)) (by decide +kernel)⟩

end Share

end TurtleTree
