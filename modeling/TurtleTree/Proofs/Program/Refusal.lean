/-
TurtleTree/Proofs/Program/Refusal.lean

What is refused before any tree is grown.

A number of passes can be asked for on the command line, in a file of settings and
in a share string.  Each source is checked where it is read, and not where its
number is used, so too large a number is refused even if another source comes
before it.

On the command line the check is late: the number is looked at when the next option
is recognised or the arguments end.  Until then nothing but a refusal can happen
(`Arguments.ne_ok_of_pending`).

Main results: `Arguments.exists_error_of_requested`, `Task.exists_error_of_settings`
and `Task.exists_error_of_import`, one for each source.
-/
import TurtleTree.Proofs.Program.Resolve

namespace TurtleTree

theorem Except.exists_error {ε α : Type} {x : Except ε α} (h : ∀ a, x ≠ .ok a) :
    ∃ e, x = .error e := by
  rcases x with e | a
  · exact ⟨e, rfl⟩
  · exact absurd rfl (h a)

/-! ### The command line -/

namespace Arguments

/-- The two ways to ask for a number of passes. -/
def iterationsForms (text : String) : List (List String) :=
  [["--iterations", text], ["--iterations=" ++ text]]

section Pending

variable {a b : Arguments} {r : Arguments × Pending} {o : ValueOption} {value arg : String}

/-- An option with a bad value cannot be completed, and every next argument that is recognised
completes it. -/
theorem ne_ok_of_pending_readOne (hbad : ∀ b, a.settle (some (o, some value)) ≠ .ok b) :
    a.readOne (some (o, some value)) arg ≠ .ok r := by
  obtain ⟨e, he⟩ := Except.exists_error hbad
  intro h
  rw [readOne] at h
  split at h
  · rw [readLong, he] at h
    split at h <;> cases h
  · rw [readShort, he] at h
    split at h
    · next hfree => simp at hfree
    · split at h <;> cases h
  · cases h

/-- So nothing that follows can be read. -/
theorem ne_ok_of_pending (hbad : ∀ b, a.settle (some (o, some value)) ≠ .ok b)
    (rest : List String) : a.readAll (some (o, some value)) rest ≠ .ok b := by
  rcases rest with - | ⟨arg, rest⟩
  · exact hbad b
  · intro h
    rw [readAll] at h
    split at h
    · split at h
      · exact hbad b h
      · cases h
    · obtain ⟨r, hr, -⟩ := Except.exists_of_bind_eq_ok h
      exact ne_ok_of_pending_readOne hbad hr

end Pending

section Requested

variable {text : String} {n : Int} (hn : ArgumentText.int? text = some n)
  (hmany : (Parameters.maxIterations.toNat : Int) < n)
include hn hmany

theorem ne_ok_of_give (a b : Arguments) : a.give .iterations text ≠ .ok b := by
  intro h
  obtain ⟨_, honce, -⟩ := Except.exists_of_map_eq_ok h
  rw [once] at honce
  split at honce
  · cases honce
  · obtain ⟨m, hm, -⟩ := Except.exists_of_map_eq_ok honce
    have hnone : ArgumentText.intWithin? 0 Parameters.maxIterations.toNat text = .none := by
      rw [ArgumentText.intWithin?, hn, Option.filter_some, if_neg]
      simp only [Bool.and_eq_true, decide_eq_true_eq]
      omega
    rw [upTo, hnone] at hm
    cases hm

/-- A positive number has no dash in front, so it is read as a value. -/
theorem readOne_requested (a : Arguments) (o : ValueOption) :
    a.readOne (some (o, .none)) text = .ok (a, some (o, some text)) := by
  have hdash : text.toList.head? ≠ some '-' := by
    intro hhead
    obtain ⟨rest, hrest⟩ := List.head?_eq_some_iff.mp hhead
    rw [ArgumentText.int?, hrest] at hn
    simp only [ArgumentText.splitSign, if_true] at hn
    split at hn
    · exact nomatch hn
    · have := Option.some.inj hn
      omega
  rw [readOne]
  split
  · next heq => exact absurd (by rw [heq]; rfl) hdash
  · next heq => exact absurd (by rw [heq]; rfl) hdash
  · rfl

omit hmany in
theorem ne_dashes_of_requested : text ≠ "--" := by
  rintro rfl
  have hnone : ArgumentText.int? "--" = .none := by decide +kernel
  rw [hnone] at hn
  exact nomatch hn

/-- With the number as an argument of its own, the option waits for it and then is bad. -/
theorem ne_ok_of_apart (a b : Arguments) (pending : Pending) (rest : List String) :
    a.readAll pending ("--iterations" :: text :: rest) ≠ .ok b := by
  intro h
  have hoption : a.readOne pending "--iterations"
      = (a.settle pending).map (·, some (.iterations, .none)) := by
    have hname : "--iterations".toList = '-' :: '-' :: "iterations".toList := by decide +kernel
    have hkind : options.lookup (splitLong "iterations".toList).1
        = some (.value .iterations) := by decide +kernel
    have hvalue : (splitLong "iterations".toList).2 = .none := by decide +kernel
    rw [readOne, hname]
    simp only [readLong, hkind, hvalue]
  rw [readAll, if_neg (by decide), hoption] at h
  obtain ⟨r, hr, h⟩ := Except.exists_of_bind_eq_ok h
  obtain ⟨c, -, rfl⟩ := Except.exists_of_map_eq_ok hr
  have h : c.readAll (some (.iterations, .none)) (text :: rest) = .ok b := h
  rw [readAll, if_neg (ne_dashes_of_requested hn), readOne_requested hn hmany] at h
  exact ne_ok_of_pending (o := .iterations) (ne_ok_of_give hn hmany c) rest h

/-- With the number attached, the option is bad at once. -/
theorem ne_ok_of_attached (a b : Arguments) (pending : Pending) (rest : List String) :
    a.readAll pending (("--iterations=" ++ text) :: rest) ≠ .ok b := by
  intro h
  have hlist : ("--iterations=" ++ text).toList
      = '-' :: '-' :: ("iterations".toList ++ '=' :: text.toList) := by
    have hname : "--iterations=".toList = '-' :: '-' :: ("iterations".toList ++ ['=']) := by
      decide +kernel
    rw [String.toList_append, hname]
    simp
  have hsplit : splitLong ("iterations".toList ++ '=' :: text.toList)
      = ("iterations", some text) := by
    have hall : "iterations".toList.all (fun c => decide (c ≠ '=')) = true := by decide +kernel
    have hplain : ∀ c ∈ "iterations".toList, decide (c ≠ '=') = true := List.all_eq_true.mp hall
    rw [splitLong, List.takeWhile_append_of_pos hplain, List.dropWhile_append_of_pos hplain]
    simp
  have hkind : options.lookup "iterations" = some (.value .iterations) := by decide +kernel
  have hdashes : "--iterations=" ++ text ≠ "--" := by
    intro heq
    rw [heq] at hlist
    exact absurd hlist (by simp)
  have hoption : a.readOne pending ("--iterations=" ++ text)
      = (a.settle pending).bind fun a => (a.give .iterations text).map (·, .none) := by
    rw [readOne, hlist]
    simp only [readLong, hsplit, hkind]
  rw [readAll, if_neg hdashes, hoption] at h
  obtain ⟨r, hr, -⟩ := Except.exists_of_bind_eq_ok h
  obtain ⟨c, -, hr⟩ := Except.exists_of_bind_eq_ok hr
  obtain ⟨d, hd, -⟩ := Except.exists_of_map_eq_ok hr
  exact ne_ok_of_give hn hmany c d hd

/-- What comes before the option may be refused, or is read and comes to the option. -/
theorem ne_ok_of_form {form : List String} (hform : form ∈ iterationsForms text)
    (before after : List String) (a b : Arguments) (pending : Pending) :
    a.readAll pending (before ++ (form ++ after)) ≠ .ok b := by
  induction before generalizing a pending with
  | nil =>
    obtain rfl | rfl : form = ["--iterations", text] ∨ form = ["--iterations=" ++ text] := by
      simpa [iterationsForms] using hform
    · exact ne_ok_of_apart hn hmany a b pending after
    · exact ne_ok_of_attached hn hmany a b pending after
  | cons arg before ih =>
    intro h
    rw [List.cons_append, readAll] at h
    split at h
    -- nothing may follow two lone dashes, and here something does
    · split at h
      · next hend =>
        rw [List.isEmpty_iff.mp hend] at ih
        exact ih a pending h
      · cases h
    · obtain ⟨r, -, h⟩ := Except.exists_of_bind_eq_ok h
      exact ih r.1 r.2 h

/-- **Too many passes on the command line** are refused, whatever else stands on it. -/
theorem exists_error_of_requested (before after : List String) :
    ∀ form ∈ iterationsForms text, ∃ e, parse (before ++ (form ++ after)) = .error e := by
  intro form hform
  exact Except.exists_error fun b => ne_ok_of_form hn hmany hform before after none b .none

end Requested

end Arguments

/-! ### Settings -/

namespace Settings

/-- The number of passes that a file asks for, if it is a document with an integer for it. -/
def requested? (octets : Option (List UInt8)) : Option Int := do
  let text ← octets.bind Octets.toText?
  let table ← Toml.parse? text
  match table.lookup "iterations" with
  | some (.integer n) => some n
  | _ => none

/-- Settings have the number of passes that their table has. -/
theorem iterations_of_ofTable? {t : TomlTable} {s : Settings} {n : Int}
    (hlookup : t.lookup "iterations" = some (.integer n)) (h : ofTable? t = some s) :
    (s.parameters.iterations.toNat : Int) = n := by
  obtain ⟨p, hp, h⟩ := Option.bind_eq_some_iff.mp h
  obtain ⟨_, -, h⟩ := Option.bind_eq_some_iff.mp h
  obtain ⟨_, -, h⟩ := Option.bind_eq_some_iff.mp h
  obtain ⟨_, -, h⟩ := Option.bind_eq_some_iff.mp h
  obtain rfl := Option.some.inj h
  obtain ⟨_, -, hp⟩ := Option.bind_eq_some_iff.mp hp
  obtain ⟨m, hm, hp⟩ := Option.bind_eq_some_iff.mp hp
  have hiterations : p.iterations = m := by
    iterate 10 obtain ⟨_, -, hp⟩ := Option.bind_eq_some_iff.mp hp
    obtain rfl := Option.some.inj hp
    rfl
  show (p.iterations.toNat : Int) = n
  rw [hiterations]
  rw [Toml.get?, hlookup] at hm
  simp only [Toml.toUInt32?, Toml.toIntWithin?] at hm
  split at hm
  · next hbounds =>
    obtain rfl := Option.some.inj hm
    have hsmall : n.toNat < UInt32.size := by
      show n.toNat < 2 ^ 32
      omega
    rw [UInt32.toNat_ofNat_of_lt' hsmall]
    omega
  · exact nomatch hm

/-- **Too many passes in a file** are refused, wherever it comes from. -/
theorem exists_error_of_requested {octets : Option (List UInt8)} {n : Int}
    (hn : requested? octets = some n) (hmany : (Parameters.maxIterations.toNat : Int) < n)
    (path : String) : ∃ e, load path octets = .error e := by
  refine Except.exists_error fun s h => ?_
  obtain ⟨hchecked, text, table, htext, htable, hread⟩ := exists_table_of_load h
  have hfew := UInt32.le_iff_toNat_le.mp hchecked.iterations
  simp only [requested?, htext, htable, Option.bind_eq_bind, Option.bind_some] at hn
  split at hn
  · next m hlookup =>
    obtain rfl := Option.some.inj hn
    have hsame := iterations_of_ofTable? hlookup hread
    omega
  · exact nomatch hn

end Settings

/-! ### Share strings -/

/-- Parameters have the number of passes that their fields have. -/
theorem Parameters.iterations_of_ofFields? {fields : List (Option Json)} {p : Parameters}
    {v : Json} {n : Int} (hlookup : (fieldNames.zip fields).lookup "iterations" = some (some v))
    (hv : v.toInt? = some n) (h : ofFields? fields = some p) :
    (p.iterations.toNat : Int) = n := by
  obtain ⟨_, iterations, _, _, _, _, _, _, _, _, _, _, rfl, -, hm, -⟩ := ofFields?_eq_some_iff.mp h
  -- the second of the names
  simp only [fieldNames, List.zip_cons_cons, List.lookup_cons, String.reduceBEq,
    Option.some.injEq] at hlookup
  subst hlookup
  simp only [Json.defaulted?, Json.toUInt32?, Json.toIntWithin?, hv] at hm
  obtain ⟨i, hi, hiterations⟩ := Option.map_eq_some_iff.mp hm
  obtain ⟨hsame, hbounds⟩ := Option.filter_eq_some_iff.mp hi
  obtain rfl := Option.some.inj hsame
  simp only [Bool.and_eq_true, decide_eq_true_eq] at hbounds
  have hsmall : n.toNat < UInt32.size := by
    show n.toNat < 2 ^ 32
    omega
  rw [← hiterations, UInt32.toNat_ofNat_of_lt' hsmall]
  omega

namespace Share

/-- The payload of a text with the name and the version of a share string. -/
def payload? (text : String) : Option (List Char) :=
  match split (trim text.toList) with
  | .ok (first, second, third) => if first = name ∧ second = version then some third else none
  | .error _ => none

/-- The number of passes that a share string asks for, if its payload has an integer for it. -/
def requested? (text : String) : Option Int := do
  let symbols ← payload? text
  let octets ← Base64.decode? symbols
  let json ← Json.parse? octets
  let fields ← json.fields? .partly Parameters.fieldNames
  match (Parameters.fieldNames.zip fields).lookup "iterations" with
  | some (some value) => value.toInt?
  | _ => none

/-- **Too many passes in a share string** are refused. -/
theorem exists_error_of_requested {text : String} {n : Int} (hn : requested? text = some n)
    (hmany : (Parameters.maxIterations.toNat : Int) < n) : ∃ e, decode text = .error e := by
  refine Except.exists_error fun p h => ?_
  obtain ⟨octets, ⟨symbols, htext, hspells⟩, hparse, hfew⟩ := decode_eq_ok_iff.mp h
  have hfew := UInt32.le_iff_toNat_le.mp hfew
  have hoctets := Base64.decode?_eq_some_iff_spells.mpr hspells
  have hsymbols : payload? text = some symbols := by
    rw [payload?, htext, (parts_header symbols).split_eq]
    exact if_pos ⟨rfl, rfl⟩
  simp only [requested?, hsymbols, hoctets, Option.bind_eq_bind, Option.bind_some] at hn
  obtain ⟨json, hjson, hn⟩ := Option.bind_eq_some_iff.mp hn
  obtain ⟨fields, hfields, hn⟩ := Option.bind_eq_some_iff.mp hn
  rw [Parameters.parse?, hjson, Option.bind_some, Parameters.ofJson?, hfields,
    Option.bind_some] at hparse
  split at hn
  · next v hlookup =>
    have hsame := Parameters.iterations_of_ofFields? hlookup hn hparse
    omega
  · cases hn

end Share

/-! ### Tasks -/

namespace Task

variable {a : Arguments} {n : Int}

/-- A file that asks for too many passes is refused before anything else is looked at. -/
theorem exists_error_of_settings {path : String} {file : Option (List UInt8)}
    (hconfig : a.config = some path) (hn : Settings.requested? file = some n)
    (hmany : (Parameters.maxIterations.toNat : Int) < n) :
    ∃ e, resolve a file = .error (.settings e) := by
  obtain ⟨e, he⟩ := Settings.exists_error_of_requested hn hmany path
  have hsettings : settings? a file = .error (.settings e) := by
    simp only [settings?, hconfig, he]
    rfl
  refine ⟨e, ?_⟩
  have hbind : resolve a file = (settings? a file).bind fun s =>
    (base? a s).bind fun p => .ok ⟨a, s, a.overrideParameters p⟩ := rfl
  rw [hbind, hsettings]
  rfl

/-- A share string that asks for too many passes is refused, if not its file of settings is. -/
theorem exists_error_of_import {text : String} (himport : a.importing = some text)
    (hn : Share.requested? text = some n) (hmany : (Parameters.maxIterations.toNat : Int) < n)
    (file : Option (List UInt8)) : ∃ e, resolve a file = .error e := by
  obtain ⟨e, he⟩ := Share.exists_error_of_requested hn hmany
  refine Except.exists_error fun t h => ?_
  obtain ⟨s, p, -, hp, -⟩ := resolve_eq_ok_iff.mp h
  simp only [base?, himport, he] at hp
  cases hp

end Task

end TurtleTree
