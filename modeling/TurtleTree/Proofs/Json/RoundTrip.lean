/-
TurtleTree/Proofs/Json/RoundTrip.lean

JSON values are read back from their text.

A value is written in front of whatever follows it, and reading a value leaves
what follows it; so what there is to show can be said of any rest, and the proof
goes down the value.  Of what follows only its beginning matters, which must
not go on with a number.  Space between the parts is skipped, so both layouts are
read alike.

Main results: a value whose numbers, strings and keys can be written as they are
is read back, in either layout (`Json.readValue_write`), also from the octets of
its text (`Json.parse?_write`).
-/
import TurtleTree.Proofs.Json.Numbers
import Mathlib.Data.List.DropRight

namespace TurtleTree

namespace Json

/-! ### What can be written -/

/-- The characters stand for octets of a string and need no escape. -/
def PlainChars (raw : List Char) : Prop :=
  ∀ c ∈ raw, c ≠ '"' ∧ c ≠ '\\' ∧ ¬ c < ' ' ∧ c.toNat < 256

instance (raw : List Char) : Decidable (PlainChars raw) := List.decidableBAll _ raw

mutual

/-- All numbers, strings and keys of the value can be written as they are. -/
def Writable : Json → Prop
  | .null => True
  | .bool _ => True
  | .number n => n.Writable
  | .string raw => PlainChars raw
  | .array items => WritableItems items
  | .object members => WritableMembers members

def WritableItems : List Json → Prop
  | [] => True
  | item :: items => Writable item ∧ WritableItems items

def WritableMembers : List (List Char × Json) → Prop
  | [] => True
  | (key, value) :: members => PlainChars key ∧ Writable value ∧ WritableMembers members

end

mutual

/-- The depth of recursion that reading the value takes, at most. -/
def weight : Json → Nat
  | .array items => 1 + itemsWeight items
  | .object members => 1 + membersWeight members
  | _ => 1

def itemsWeight : List Json → Nat
  | [] => 0
  | item :: items => 1 + weight item + itemsWeight items

def membersWeight : List (List Char × Json) → Nat
  | [] => 0
  | (_, value) :: members => 1 + weight value + membersWeight members

end

/-! ### Strings -/

theorem scanString_append {raw : List Char} (h : PlainChars raw) (read rest : List Char) :
    scanString read (raw ++ '"' :: rest) = some (read.reverse ++ raw, rest) := by
  induction raw generalizing read with
  | nil =>
    show scanString read ('"' :: rest) = _
    rw [scanString, List.append_nil]
  | cons c raw ih =>
    obtain ⟨hquote, hescape, hcontrol, -⟩ := h c List.mem_cons_self
    have hstep : (c < ' ' || c == '\\') = false := by simp [hcontrol, hescape]
    have hrest := ih (fun d hd => h d (List.mem_cons_of_mem c hd)) (c :: read)
    rw [List.cons_append, scanString]
    · rw [hstep, if_neg Bool.false_ne_true, hrest, List.reverse_cons, List.append_assoc]
      rfl
    · exact fun heq => hquote heq
    · exact fun _ _ _ _ _ heq _ => hescape heq
    · exact fun _ _ heq _ => hescape heq

/-! ### Space -/

@[simp] theorem skipSpace_lineBreak (l : JsonLayout) (depth : Nat) (s : List Char) :
    skipSpace (l.lineBreak depth ++ s) = skipSpace s := by
  cases l with
  | compact => rfl
  | spacious =>
    refine List.dropWhile_append_of_pos fun c hc => ?_
    rcases List.mem_cons.mp hc with rfl | hc
    · rfl
    · rw [(List.mem_replicate.mp hc).2]
      rfl

theorem exists_colon_append (l : JsonLayout) (s : List Char) :
    ∃ t, l.colon ++ s = ':' :: t ∧ skipSpace t = skipSpace s := by
  cases l with
  | compact => exact ⟨s, rfl, rfl⟩
  | spacious => exact ⟨' ' :: s, rfl, rfl⟩

theorem skipSpace_idem (s : List Char) : skipSpace (skipSpace s) = skipSpace s := by
  rw [skipSpace, skipSpace, List.dropWhile_idempotent]

theorem skipSpace_cons {c : Char} (h : isSpace c = false) (s : List Char) :
    skipSpace (c :: s) = c :: s := List.dropWhile_cons_of_neg (by simp [h])

/-- Space in front of a value is not seen. -/
theorem readValue_congr {s t : List Char} (h : skipSpace s = skipSpace t) (n : Nat) :
    readValue n s = readValue n t := by
  cases n with
  | zero => rfl
  | succ n => simp only [readValue, h]

theorem readItems_congr {s t : List Char} (h : skipSpace s = skipSpace t) (n : Nat) :
    readItems n s = readItems n t := by
  cases n with
  | zero => rfl
  | succ n => simp only [readItems, readValue_congr h]

theorem readMembers_congr {s t : List Char} (h : skipSpace s = skipSpace t) (n : Nat) :
    readMembers n s = readMembers n t := by
  cases n with
  | zero => rfl
  | succ n => simp only [readMembers, h]

/-! ### What follows a part -/

/-- Marks that end an item or a member do not go on with a number. -/
theorem endsNumber_cons {c : Char} (h : c = ',' ∨ c = ']' ∨ c = '\x7d' ∨ c = '\n')
    (s : List Char) : EndsNumber (c :: s) := by
  intro d hd
  obtain rfl : c = d := Option.some.inj hd
  rcases h with rfl | rfl | rfl | rfl <;> decide

theorem endsNumber_lineBreak (l : JsonLayout) (depth : Nat) {c : Char}
    (h : c = ',' ∨ c = ']' ∨ c = '\x7d' ∨ c = '\n') (s : List Char) :
    EndsNumber (l.lineBreak depth ++ c :: s) := by
  cases l with
  | compact => exact endsNumber_cons h s
  | spacious => exact endsNumber_cons (by simp) _

theorem endsNumber_writeItems (l : JsonLayout) (depth : Nat) (items : List Json) {s : List Char}
    (h : EndsNumber s) : EndsNumber (writeItems l depth items s) := by
  cases items with
  | nil => exact h
  | cons item items => exact endsNumber_cons (by simp) _

theorem endsNumber_writeMembers (l : JsonLayout) (depth : Nat)
    (members : List (List Char × Json)) {s : List Char} (h : EndsNumber s) :
    EndsNumber (writeMembers l depth members s) := by
  cases members with
  | nil => exact h
  | cons member members => exact endsNumber_cons (by simp) _

/-! ### Values -/

/-- A text that begins with a digit or a sign is that of a number. -/
theorem readValue_number {c : Char} (hc : c.isDigit = true ∨ c = '-') (n : Nat) (s : List Char) :
    readValue (n + 1) (c :: s) = (scanNumber (c :: s)).map fun (written, rest) =>
      (.number written, rest) := by
  have hmark : ∀ d : Char, d.isDigit = false → d ≠ '-' → c ≠ d := by
    rintro d hdigit hminus rfl
    rcases hc with hc | hc
    · rw [hdigit] at hc
      exact Bool.noConfusion hc
    · exact hminus hc
  have hspace : isSpace c = false := by
    simp [isSpace, hmark ' ' rfl (by decide), hmark '\t' rfl (by decide),
      hmark '\n' rfl (by decide), hmark '\r' rfl (by decide)]
  have hhead : ∀ (d : Char) (t : List Char), d.isDigit = false → d ≠ '-' → c :: s ≠ d :: t :=
    fun d t hdigit hminus heq => hmark d hdigit hminus (List.cons.inj heq).1
  rw [readValue, skipSpace_cons hspace]
  split
  · next heq => exact absurd heq (hhead 'n' _ rfl (by decide))
  · next heq => exact absurd heq (hhead 't' _ rfl (by decide))
  · next heq => exact absurd heq (hhead 'f' _ rfl (by decide))
  · next heq => exact absurd heq (hhead '"' _ rfl (by decide))
  · next heq => exact absurd heq (hhead '[' _ rfl (by decide))
  · next heq => exact absurd heq (hhead '\x7b' _ rfl (by decide))
  · rfl

/-- A text that begins with a bracket has no items in front of it. -/
theorem skipSpace_ne_of_readItems {n : Nat} {s : List Char} {r : List Json × List Char}
    (h : readItems n s = some r) (t : List Char) : skipSpace s ≠ ']' :: t := by
  intro heq
  rcases n with - | n
  · exact absurd h (by simp [readItems])
  · have hvalue : readValue n s = none := by
      rcases n with - | n
      · rfl
      · simp only [readValue, heq]
        rfl
    simp [readItems, hvalue] at h

theorem skipSpace_ne_of_readMembers {n : Nat} {s : List Char}
    {r : List (List Char × Json) × List Char} (h : readMembers n s = some r) (t : List Char) :
    skipSpace s ≠ '\x7d' :: t := by
  intro heq
  rcases n with - | n
  · exact absurd h (by simp [readMembers])
  · simp [readMembers, heq] at h

theorem weight_pos (j : Json) : 0 < weight j := by
  cases j <;> simp only [weight] <;> omega

-- The induction is on the value and goes through all that may follow it: the text of an
-- item is read in front of the items that are left, and those in front of the bracket.
mutual

/-- **A value is read back**, in either layout and whatever follows it that does not go on
with a number. -/
theorem readValue_write (l : JsonLayout) : ∀ (j : Json) (depth n : Nat) (rest : List Char),
    Writable j → weight j ≤ n → EndsNumber rest →
      readValue n (write l depth j rest) = some (j, rest)
  | j, _, 0, _, _, hn, _ => absurd (weight_pos j) (Nat.not_lt.mpr hn)
  | .null, _, n + 1, rest, _, _, _ => by
    rw [write, readValue, skipSpace_cons rfl]
    rfl
  | .bool true, _, n + 1, rest, _, _, _ => by
    rw [write, readValue, skipSpace_cons rfl]
    rfl
  | .bool false, _, n + 1, rest, _, _, _ => by
    rw [write, readValue, skipSpace_cons rfl]
    rfl
  | .number written, _, n + 1, rest, hj, _, hrest => by
    obtain ⟨c, s, hchars, hc⟩ := JsonNumber.exists_chars_eq_cons hj
    rw [write, hchars, List.cons_append, readValue_number hc, ← List.cons_append, ← hchars,
      scanNumber_chars hj hrest]
    rfl
  | .string raw, _, n + 1, rest, hj, _, _ => by
    rw [write, quoted, readValue, skipSpace_cons rfl]
    simp only [scanString_append hj]
    rfl
  | .array [], _, n + 1, rest, _, _, _ => by
    rw [write, readValue, skipSpace_cons rfl]
    simp only [skipSpace_cons (c := ']') rfl]
  | .array (item :: items), depth, n + 1, rest, hj, hn, _ => by
    obtain ⟨s, hs, hread⟩ := readItems_writeItems l (item :: items) (List.cons_ne_nil _ _)
      (depth + 1) depth n rest hj (by rw [weight] at hn; omega)
    obtain rfl := (List.cons.inj hs).2
    -- so the bracket in front is not that of an empty array
    have hbracket := skipSpace_ne_of_readItems hread
    rw [write, readValue, skipSpace_cons rfl]
    simp only
    rw [readItems_congr (skipSpace_idem _), hread]
    rfl
  | .object [], _, n + 1, rest, _, _, _ => by
    rw [write, readValue, skipSpace_cons rfl]
    simp only [skipSpace_cons (c := '\x7d') rfl]
  | .object ((key, value) :: members), depth, n + 1, rest, hj, hn, _ => by
    obtain ⟨s, hs, hread⟩ := readMembers_writeMembers l ((key, value) :: members)
      (List.cons_ne_nil _ _) (depth + 1) depth n rest hj (by rw [weight] at hn; omega)
    obtain rfl := (List.cons.inj hs).2
    -- so the brace in front is not that of an empty object
    have hbrace := skipSpace_ne_of_readMembers hread
    rw [write, readValue, skipSpace_cons rfl]
    simp only
    rw [readMembers_congr (skipSpace_idem _), hread]
    rfl

/-- The items behind a bracket or a comma. -/
theorem readItems_writeItems (l : JsonLayout) : ∀ (items : List Json), items ≠ [] →
    ∀ (depth outer n : Nat) (rest : List Char), WritableItems items → itemsWeight items ≤ n →
      ∃ s, writeItems l depth items (l.lineBreak outer ++ ']' :: rest) = ',' :: s ∧
        readItems n s = some (items, rest)
  | [], hnil, _, _, _, _, _, _ => absurd rfl hnil
  | item :: items, _, _, _, 0, _, _, hn => by
    rw [itemsWeight] at hn
    omega
  | item :: items, _, depth, outer, n + 1, rest, hitems, hn => by
    rw [itemsWeight] at hn
    refine ⟨_, rfl, ?_⟩
    have hvalue := readValue_write l item depth n
      (writeItems l depth items (l.lineBreak outer ++ ']' :: rest)) hitems.1 (by omega)
      (endsNumber_writeItems l depth items (endsNumber_lineBreak l outer (by simp) rest))
    rw [readItems_congr (skipSpace_lineBreak l depth _), readItems, hvalue]
    rcases items with - | ⟨next, items⟩
    · simp only [writeItems, skipSpace_lineBreak, skipSpace_cons (c := ']') rfl]
    · obtain ⟨s, hs, hread⟩ := readItems_writeItems l (next :: items) (List.cons_ne_nil _ _)
        depth outer n rest hitems.2 (by omega)
      rw [hs]
      simp only [skipSpace_cons (c := ',') rfl, hread]
      rfl

/-- The members behind a brace or a comma. -/
theorem readMembers_writeMembers (l : JsonLayout) : ∀ (members : List (List Char × Json)),
    members ≠ [] → ∀ (depth outer n : Nat) (rest : List Char), WritableMembers members →
      membersWeight members ≤ n →
      ∃ s, writeMembers l depth members (l.lineBreak outer ++ '\x7d' :: rest) = ',' :: s ∧
        readMembers n s = some (members, rest)
  | [], hnil, _, _, _, _, _, _ => absurd rfl hnil
  | (_, _) :: _, _, _, _, 0, _, _, hn => by
    rw [membersWeight] at hn
    omega
  | (key, value) :: members, _, depth, outer, n + 1, rest, hmembers, hn => by
    rw [membersWeight] at hn
    refine ⟨_, rfl, ?_⟩
    have hvalue := readValue_write l value depth n
      (writeMembers l depth members (l.lineBreak outer ++ '\x7d' :: rest)) hmembers.2.1
      (by omega)
      (endsNumber_writeMembers l depth members (endsNumber_lineBreak l outer (by simp) rest))
    rw [readMembers_congr (skipSpace_lineBreak l depth _), readMembers, quoted,
      skipSpace_cons rfl]
    obtain ⟨t, ht, hspace⟩ := exists_colon_append l
      (write l depth value (writeMembers l depth members (l.lineBreak outer ++ '\x7d' :: rest)))
    rw [← readValue_congr hspace] at hvalue
    simp only [scanString_append hmembers.1, List.reverse_nil, List.nil_append, ht,
      skipSpace_cons (c := ':') rfl, hvalue]
    rcases members with - | ⟨next, members⟩
    · simp only [writeMembers, skipSpace_lineBreak, skipSpace_cons (c := '\x7d') rfl]
    · obtain ⟨s, hs, hread⟩ := readMembers_writeMembers l (next :: members)
        (List.cons_ne_nil _ _) depth outer n rest hmembers.2.2 (by omega)
      rw [hs]
      simp only [skipSpace_cons (c := ',') rfl, hread]
      rfl

end

/-! ### Whole texts -/

mutual

/-- The depth of recursion is no more than the number of characters. -/
theorem weight_add_length_le (l : JsonLayout) : ∀ (j : Json) (depth : Nat) (rest : List Char),
    Writable j → weight j + rest.length ≤ (write l depth j rest).length
  | .null, _, rest, _ => by simp [weight, write]; omega
  | .bool true, _, rest, _ => by simp [weight, write]; omega
  | .bool false, _, rest, _ => by simp [weight, write]; omega
  | .number n, _, rest, hj => by
    obtain ⟨c, s, hchars, -⟩ := JsonNumber.exists_chars_eq_cons hj
    simp [weight, write, hchars]
    omega
  | .string raw, _, rest, _ => by simp [weight, write, quoted]; omega
  | .array [], _, rest, _ => by simp [weight, itemsWeight, write]; omega
  | .array (item :: items), depth, rest, hj => by
    have hitem := weight_add_length_le l item (depth + 1)
      (writeItems l (depth + 1) items (l.lineBreak depth ++ ']' :: rest)) hj.1
    have hitems := itemsWeight_add_length_le l items (depth + 1)
      (l.lineBreak depth ++ ']' :: rest) hj.2
    simp [weight, itemsWeight, write] at hitem hitems ⊢
    omega
  | .object [], _, rest, _ => by simp [weight, membersWeight, write]; omega
  | .object ((key, value) :: members), depth, rest, hj => by
    have hvalue := weight_add_length_le l value (depth + 1)
      (writeMembers l (depth + 1) members (l.lineBreak depth ++ '\x7d' :: rest)) hj.2.1
    have hmembers := membersWeight_add_length_le l members (depth + 1)
      (l.lineBreak depth ++ '\x7d' :: rest) hj.2.2
    simp [weight, membersWeight, write, quoted] at hvalue hmembers ⊢
    omega

theorem itemsWeight_add_length_le (l : JsonLayout) : ∀ (items : List Json) (depth : Nat)
    (rest : List Char), WritableItems items →
      itemsWeight items + rest.length ≤ (writeItems l depth items rest).length
  | [], _, rest, _ => by simp [itemsWeight, writeItems]
  | item :: items, depth, rest, h => by
    have hitem := weight_add_length_le l item depth (writeItems l depth items rest) h.1
    have hitems := itemsWeight_add_length_le l items depth rest h.2
    simp [itemsWeight, writeItems] at hitem hitems ⊢
    omega

theorem membersWeight_add_length_le (l : JsonLayout) : ∀ (members : List (List Char × Json))
    (depth : Nat) (rest : List Char), WritableMembers members →
      membersWeight members + rest.length ≤ (writeMembers l depth members rest).length
  | [], _, rest, _ => by simp [membersWeight, writeMembers]
  | (key, value) :: members, depth, rest, h => by
    have hvalue := weight_add_length_le l value depth (writeMembers l depth members rest) h.2.1
    have hmembers := membersWeight_add_length_le l members depth rest h.2.2
    simp [membersWeight, writeMembers, quoted] at hvalue hmembers ⊢
    omega

end

/-- All characters stand for octets. -/
def Octetwise (s : List Char) : Prop := ∀ c ∈ s, c.toNat < 256

theorem octetwise_append {s t : List Char} : Octetwise (s ++ t) ↔ Octetwise s ∧ Octetwise t :=
  List.forall_mem_append

theorem octetwise_cons {c : Char} {s : List Char} :
    Octetwise (c :: s) ↔ c.toNat < 256 ∧ Octetwise s := List.forall_mem_cons

theorem octetwise_lineBreak (l : JsonLayout) (depth : Nat) : Octetwise (l.lineBreak depth) := by
  cases l with
  | compact => exact fun c hc => absurd hc List.not_mem_nil
  | spacious =>
    refine octetwise_cons.mpr ⟨by decide, fun c hc => ?_⟩
    rw [(List.mem_replicate.mp hc).2]
    decide

theorem octetwise_colon (l : JsonLayout) : Octetwise l.colon := by
  cases l with
  | compact => simp [JsonLayout.colon, Octetwise]
  | spacious => simp [JsonLayout.colon, Octetwise]

theorem octetwise_quoted {raw rest : List Char} (hraw : PlainChars raw) (hrest : Octetwise rest) :
    Octetwise (quoted raw rest) := by
  refine octetwise_cons.mpr ⟨by decide, octetwise_append.mpr ⟨fun c hc => ?_, ?_⟩⟩
  · exact (hraw c hc).2.2.2
  · exact octetwise_cons.mpr ⟨by decide, hrest⟩

mutual

/-- A text has characters that stand for octets only. -/
theorem octetwise_write (l : JsonLayout) : ∀ (j : Json) (depth : Nat) (rest : List Char),
    Writable j → Octetwise rest → Octetwise (write l depth j rest)
  | .null, _, rest, _, hrest => by simpa [write, octetwise_cons] using hrest
  | .bool true, _, rest, _, hrest => by simpa [write, octetwise_cons] using hrest
  | .bool false, _, rest, _, hrest => by simpa [write, octetwise_cons] using hrest
  | .number n, _, rest, hj, hrest => by
    refine octetwise_append.mpr ⟨fun c hc => ?_, hrest⟩
    have := JsonNumber.toNat_lt_of_mem_chars hj hc
    omega
  | .string raw, _, rest, hj, hrest => octetwise_quoted hj hrest
  | .array [], _, rest, _, hrest => by simpa [write, octetwise_cons] using hrest
  | .array (item :: items), depth, rest, hj, hrest => by
    have hclose : Octetwise (l.lineBreak depth ++ ']' :: rest) :=
      octetwise_append.mpr ⟨octetwise_lineBreak l depth, octetwise_cons.mpr ⟨by decide, hrest⟩⟩
    have hitems := octetwise_writeItems l items (depth + 1) _ hj.2 hclose
    rw [write]
    exact octetwise_cons.mpr ⟨by decide, octetwise_append.mpr
      ⟨octetwise_lineBreak l _, octetwise_write l item (depth + 1) _ hj.1 hitems⟩⟩
  | .object [], _, rest, _, hrest => by simpa [write, octetwise_cons] using hrest
  | .object ((key, value) :: members), depth, rest, hj, hrest => by
    have hclose : Octetwise (l.lineBreak depth ++ '\x7d' :: rest) :=
      octetwise_append.mpr ⟨octetwise_lineBreak l depth, octetwise_cons.mpr ⟨by decide, hrest⟩⟩
    have hmembers := octetwise_writeMembers l members (depth + 1) _ hj.2.2 hclose
    have hvalue := octetwise_write l value (depth + 1) _ hj.2.1 hmembers
    rw [write]
    exact octetwise_cons.mpr ⟨by decide, octetwise_append.mpr ⟨octetwise_lineBreak l _,
      octetwise_quoted hj.1 (octetwise_append.mpr ⟨octetwise_colon l, hvalue⟩)⟩⟩

theorem octetwise_writeItems (l : JsonLayout) : ∀ (items : List Json) (depth : Nat)
    (rest : List Char), WritableItems items → Octetwise rest →
      Octetwise (writeItems l depth items rest)
  | [], _, _, _, hrest => hrest
  | item :: items, depth, rest, h, hrest => by
    have hitems := octetwise_writeItems l items depth rest h.2 hrest
    rw [writeItems]
    exact octetwise_cons.mpr ⟨by decide, octetwise_append.mpr
      ⟨octetwise_lineBreak l _, octetwise_write l item depth _ h.1 hitems⟩⟩

theorem octetwise_writeMembers (l : JsonLayout) : ∀ (members : List (List Char × Json))
    (depth : Nat) (rest : List Char), WritableMembers members → Octetwise rest →
      Octetwise (writeMembers l depth members rest)
  | [], _, _, _, hrest => hrest
  | (key, value) :: members, depth, rest, h, hrest => by
    have hmembers := octetwise_writeMembers l members depth rest h.2.2 hrest
    have hvalue := octetwise_write l value depth _ h.2.1 hmembers
    rw [writeMembers]
    exact octetwise_cons.mpr ⟨by decide, octetwise_append.mpr ⟨octetwise_lineBreak l _,
      octetwise_quoted h.1 (octetwise_append.mpr ⟨octetwise_colon l, hvalue⟩)⟩⟩

end

theorem toChars_ofChars {s : List Char} (h : Octetwise s) :
    Octets.toChars (Octets.ofChars s) = s := by
  have hsame : ∀ c ∈ s, Char.ofNat (UInt8.ofNat c.toNat).toNat = c := by
    intro c hc
    rw [UInt8.toNat_ofNat', Nat.mod_eq_of_lt (h c hc), Char.ofNat_toNat]
  rw [Octets.toChars, Octets.ofChars, List.map_map]
  exact (List.map_congr_left hsame).trans (List.map_id s)

/-- **A value is read back from the octets of its text**, in either layout. -/
theorem parse?_write (l : JsonLayout) {j : Json} (h : Writable j) :
    parse? (Octets.ofChars (write l 0 j [])) = some j := by
  have hoctets : Octetwise (write l 0 j []) :=
    octetwise_write l j 0 [] h fun c hc => absurd hc List.not_mem_nil
  have hends : EndsNumber [] := fun c hc => absurd hc (by simp)
  -- the fuel of the reader is the length of the text and one more
  have hweight : weight j ≤ (write l 0 j []).length + 1 := by
    have := weight_add_length_le l j 0 [] h
    omega
  rw [parse?, toChars_ofChars hoctets]
  simp only [readValue_write l j 0 _ [] h hweight hends]
  rfl

end Json

end TurtleTree
