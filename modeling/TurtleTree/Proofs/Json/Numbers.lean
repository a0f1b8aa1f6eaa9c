/-
TurtleTree/Proofs/Json/Numbers.lean

JSON numbers are read back.

A number keeps its digits, so reading it back is a matter of finding where each
of its parts ends: digits go on until something else comes, and a point or the
mark of an exponent opens the next part.  What is behind the number must
not go on with it (`Json.EndsNumber`), and its own digits must be such as
can be written (`JsonNumber.Writable`).

Main results: a number that can be written is scanned as itself, whatever is
behind it (`Json.scanNumber_chars`), and all numbers that stand for
integers or finite singles can be written (`JsonNumber.writable_ofInt`,
`JsonNumber.writable_ofSingle`).
-/
import TurtleTree.Json.Reader
import TurtleTree.Json.Writer
import Mathlib.Data.List.TakeDrop

namespace TurtleTree

/-! ### Digits -/

theorem Numeral.valueOf_toDigits (n : Nat) : valueOf (Nat.toDigits 10 n) = n :=
  Nat.ofDigitChars_toDigits (by decide) (by decide)

theorem isDigit_of_mem_toDigits {n : Nat} {c : Char} (h : c ∈ Nat.toDigits 10 n) :
    c.isDigit = true := Nat.isDigit_of_mem_toDigits (by decide) (by decide) h

/-- The digits of a number other than zero do not begin with a zero. -/
theorem head?_toDigits {n : Nat} (h : n ≠ 0) : (Nat.toDigits 10 n).head? ≠ some '0' := by
  induction n using Nat.strongRecOn with
  | _ n ih =>
    rcases Nat.lt_or_ge n 10 with hlt | hge
    · rw [Nat.toDigits_of_lt_base hlt]
      have hdigit : ∀ n : Fin 10, n.val ≠ 0 → [n.val.digitChar].head? ≠ some '0' := by decide
      exact hdigit ⟨n, hlt⟩ h
    · have hhead := ih (n / 10) (by omega) (by omega)
      rw [Nat.toDigits_of_base_le (by decide) hge, List.head?_append]
      obtain ⟨c, ds, hds⟩ :=
        List.exists_cons_of_ne_nil (Nat.toDigits_ne_nil (b := 10) (n := n / 10))
      rw [hds] at hhead ⊢
      exact hhead

/-! ### The digits of a single -/

namespace Single

variable {x : Float32}

/-- Zero does not read back to a number that is not zero. -/
theorem readsBack_zero (h : (magnitude x).mantissa ≠ 0) {e : Int} :
    readsBack x (gauge (magnitude x) e) 0 = false := by
  have hunit : 0 < (gauge (magnitude x) e).unit :=
    Nat.mul_pos (Nat.pow_pos (by decide)) (Nat.pow_pos (by decide))
  -- what reads back lies above a bound that is itself above zero
  have hlow : 0 < (if narrowBelow x then 4 * (magnitude x).mantissa - 1
      else 4 * (magnitude x).mantissa - 2) * (gauge (magnitude x) e).unit := by
    refine Nat.mul_pos ?_ hunit
    split <;> omega
  rw [readsBack]
  simp only [Nat.mul_zero, Nat.zero_mul]
  split
  · rw [decide_eq_false (by omega), Bool.false_and]
  · rw [decide_eq_false (by omega), Bool.false_and]

theorem onGrid_digits_ne_zero (h : (magnitude x).mantissa ≠ 0) {e : Int} {d : Decimal}
    (hd : onGrid x e = some d) : d.digits ≠ 0 := by
  have hpositive : ∀ k, readsBack x (gauge (magnitude x) e) k = true → k ≠ 0 := by
    rintro k hk rfl
    rw [readsBack_zero h] at hk
    exact Bool.noConfusion hk
  rw [onGrid] at hd
  split at hd
  · exact absurd hd (by simp)
  · next hbelow _ =>
    rw [← Option.some.inj hd]
    exact hpositive _ hbelow
  · rw [← Option.some.inj hd]
    exact Nat.succ_ne_zero _
  · next hbelow _ =>
    have hlow := hpositive _ hbelow
    split at hd
    · rw [← Option.some.inj hd]
      exact hlow
    · rw [← Option.some.inj hd]
      exact Nat.succ_ne_zero _
    · rw [← Option.some.inj hd]
      exact fun hsum => hlow (Nat.eq_zero_of_add_eq_zero hsum).1

theorem strip_digits_ne_zero (n : Nat) {d : Decimal} (h : d.digits ≠ 0) :
    (d.strip n).digits ≠ 0 := by
  induction n generalizing d with
  | zero => exact h
  | succ n ih =>
    rw [Decimal.strip]
    split
    · next hten =>
      refine ih ?_
      show d.digits / 10 ≠ 0
      omega
    · exact h

/-- A number that is not zero has digits that are not all zero. -/
theorem shortest_digits_ne_zero (h : (magnitude x).mantissa ≠ 0) :
    (shortest x).digits ≠ 0 := by
  rw [shortest]
  split
  · next d hd =>
    obtain ⟨n, -, hgrid⟩ := List.exists_of_findSome?_eq_some hd
    exact strip_digits_ne_zero 17 (onGrid_digits_ne_zero h hgrid)
  · rw [exactDecimal]
    split
    · exact Nat.mul_ne_zero h (Nat.pos_iff_ne_zero.mp (Nat.pow_pos (by decide)))
    · exact Nat.mul_ne_zero h (Nat.pos_iff_ne_zero.mp (Nat.pow_pos (by decide)))

end Single

namespace JsonNumber

/-- The digits of the number can be written: there are some before the point, and no zero
stands in front of another. -/
structure Writable (n : JsonNumber) : Prop where
  whole : ∀ c ∈ n.whole, c.isDigit = true
  fraction : ∀ c ∈ n.fraction, c.isDigit = true
  leading : ∃ c ds, n.whole = c :: ds ∧ (c = '0' → ds = [])

/-- Digits that do not begin with a zero can stand before a point. -/
theorem leading_of_head? {ds : List Char} (hnil : ds ≠ []) (hhead : ds.head? ≠ some '0') :
    ∃ c ds', ds = c :: ds' ∧ (c = '0' → ds' = []) := by
  obtain ⟨c, ds', rfl⟩ := List.exists_cons_of_ne_nil hnil
  refine ⟨c, ds', rfl, ?_⟩
  rintro rfl
  exact absurd rfl hhead

theorem writable_ofInt (n : Int) : (ofInt n).Writable where
  whole c hc := isDigit_of_mem_toDigits hc
  fraction c hc := absurd hc List.not_mem_nil
  leading := by
    rcases eq_or_ne n.natAbs 0 with hzero | hne
    · refine ⟨'0', [], ?_, fun _ => rfl⟩
      show Nat.toDigits 10 n.natAbs = _
      rw [hzero]
      rfl
    · exact leading_of_head? Nat.toDigits_ne_nil (head?_toDigits hne)

/-- An integer is meant by its written form. -/
theorem toInt?_ofInt (n : Int) : (ofInt n).toInt? = some n := by
  have hmagnitude : Numeral.valueOf (ofInt n).whole = n.natAbs := Numeral.valueOf_toDigits _
  have hinteger : (ofInt n).isInteger = true := rfl
  rw [toInt?, hinteger, hmagnitude]
  rcases Int.lt_or_le n 0 with hneg | hpos
  · have hsign : (ofInt n).negative = true := decide_eq_true hneg
    have hne : n.natAbs ≠ 0 := by omega
    have hvalue : -(n.natAbs : Int) = n := by omega
    rw [hsign]
    show (if n.natAbs = 0 then none else some (-(n.natAbs : Int))) = _
    rw [if_neg hne, hvalue]
  · have hsign : (ofInt n).negative = false := decide_eq_false (by omega)
    have hvalue : (n.natAbs : Int) = n := by omega
    rw [hsign]
    show some (n.natAbs : Int) = _
    rw [hvalue]

/-- Every layout of digits that are not all zero can be written. -/
theorem writable_ofDecimal (negative : Bool) {d : Decimal} (h : d.digits ≠ 0) :
    (ofDecimal negative d).Writable := by
  have hdigits : ∀ c ∈ d.digitChars, c.isDigit = true := fun c hc => isDigit_of_mem_toDigits hc
  have hzeros : ∀ n, ∀ c ∈ List.replicate n '0', c.isDigit = true := by
    intro n c hc
    rw [(List.mem_replicate.mp hc).2]
    rfl
  obtain ⟨c, ds, hcons⟩ := List.exists_cons_of_ne_nil
    (Nat.toDigits_ne_nil (b := 10) (n := d.digits))
  have hhead : c ≠ '0' := by
    rintro rfl
    exact head?_toDigits h (congrArg List.head? hcons)
  change d.digitChars = c :: ds at hcons
  rw [ofDecimal]
  split
  · exact ⟨fun c hc => hdigits c (List.mem_of_mem_take hc),
      fun c hc => hdigits c (List.mem_of_mem_drop hc),
      ⟨c, [], by rw [hcons]; rfl, fun _ => rfl⟩⟩
  split
  · refine ⟨by simp, fun c hc => ?_, ⟨'0', [], rfl, fun _ => rfl⟩⟩
    rcases List.mem_append.mp hc with hc | hc
    · exact hzeros _ c hc
    · exact hdigits c hc
  split
  · refine ⟨fun c hc => ?_, by simp, ⟨c, _, by rw [hcons]; rfl, fun heq => absurd heq hhead⟩⟩
    rcases List.mem_append.mp hc with hc | hc
    · exact hdigits c hc
    · exact hzeros _ c hc
  · exact ⟨fun c hc => hdigits c (List.mem_of_mem_take hc),
      fun c hc => hdigits c (List.mem_of_mem_drop hc),
      ⟨c, _, by rw [hcons]; rfl, fun heq => absurd heq hhead⟩⟩

theorem writable_ofSingle (x : Float32) : (ofSingle x).Writable := by
  rw [ofSingle]
  split
  · exact ⟨by simp, by simp, ⟨'0', [], rfl, fun _ => rfl⟩⟩
  · next h => exact writable_ofDecimal _ (Single.shortest_digits_ne_zero h)

/-- A number is written in ASCII. -/
theorem toNat_lt_of_mem_chars {n : JsonNumber} (h : n.Writable) {c : Char} (hc : c ∈ n.chars) :
    c.toNat < 128 := by
  have hdigit : ∀ c : Char, c.isDigit = true → c.toNat < 128 := by
    intro c hc
    rw [Char.isDigit, Bool.and_eq_true, decide_eq_true_eq, decide_eq_true_eq] at hc
    have hle : c.toNat ≤ 57 := hc.2
    omega
  obtain ⟨negative, whole, fraction, exponent⟩ := n
  have hexponent : ∀ c ∈ exponentChars exponent, c.toNat < 128 := by
    rcases exponent with - | e
    · simp [exponentChars]
    · simp only [exponentChars, List.forall_mem_cons]
      refine ⟨by decide, ?_, fun c hc => hdigit c (isDigit_of_mem_toDigits hc)⟩
      split <;> decide
  have hfraction : ∀ c ∈ fractionChars fraction, c.toNat < 128 := by
    rcases fraction with - | ⟨d, ds⟩
    · simp [fractionChars]
    · intro c hc
      rcases List.mem_cons.mp hc with rfl | hc
      · decide
      · exact hdigit c (h.fraction c hc)
  rw [chars, List.append_assoc, List.append_assoc] at hc
  rcases List.mem_append.mp hc with hc | hc
  · rcases negative with - | -
    · exact absurd hc List.not_mem_nil
    · obtain rfl := List.mem_singleton.mp hc
      decide
  rcases List.mem_append.mp hc with hc | hc
  · exact hdigit c (h.whole c hc)
  rcases List.mem_append.mp hc with hc | hc
  · exact hfraction c hc
  · exact hexponent c hc

/-- A number begins with a digit or its sign. -/
theorem exists_chars_eq_cons {n : JsonNumber} (h : n.Writable) :
    ∃ c s, n.chars = c :: s ∧ (c.isDigit = true ∨ c = '-') := by
  obtain ⟨c, ds, hwhole, -⟩ := h.leading
  rw [chars, hwhole]
  rcases n.negative with - | -
  · exact ⟨c, _, rfl, Or.inl (h.whole c (by rw [hwhole]; exact List.mem_cons_self))⟩
  · exact ⟨'-', _, rfl, Or.inr rfl⟩

end JsonNumber

namespace Json

/-- The text does not go on with a number. -/
def EndsNumber (rest : List Char) : Prop :=
  ∀ c ∈ rest.head?, c.isDigit = false ∧ c ≠ '.' ∧ c ≠ 'e' ∧ c ≠ 'E'

/-! ### The parts of a number -/

theorem scanDigits_append {ds rest : List Char} (hds : ∀ c ∈ ds, c.isDigit = true)
    (hrest : ∀ c ∈ rest.head?, c.isDigit = false) : scanDigits (ds ++ rest) = (ds, rest) := by
  rw [scanDigits, List.span_eq_takeWhile_dropWhile, List.takeWhile_append_of_pos hds,
    List.dropWhile_append_of_pos hds]
  cases rest with
  | nil => simp
  | cons c rest => simp [hrest c rfl]

theorem scanPower_append {negative : Bool} {n : Nat} {rest : List Char}
    (hrest : EndsNumber rest) :
    scanPower negative (Nat.toDigits 10 n ++ rest)
      = some (some (if negative then -(n : Int) else n), rest) := by
  have hsome : (Nat.toDigits 10 n).isEmpty = false :=
    List.isEmpty_eq_false_iff.mpr Nat.toDigits_ne_nil
  rw [scanPower, scanDigits_append (fun c hc => isDigit_of_mem_toDigits hc)
    fun c hc => (hrest c hc).1]
  simp only [hsome, Numeral.valueOf_toDigits]
  rfl

theorem scanExponent_append (e : Option Int) {rest : List Char} (hrest : EndsNumber rest) :
    scanExponent (JsonNumber.exponentChars e ++ rest) = some (e, rest) := by
  rcases e with - | e
  · rcases rest with - | ⟨c, rest⟩
    · rfl
    · obtain ⟨-, -, hlower, hupper⟩ := hrest c rfl
      simp [JsonNumber.exponentChars, scanExponent, hlower, hupper]
  · rcases Int.lt_or_le e 0 with hneg | hpos
    · have hvalue : -(e.natAbs : Int) = e := by omega
      rw [JsonNumber.exponentChars, if_pos hneg]
      show scanPower true (Nat.toDigits 10 e.natAbs ++ rest) = _
      rw [scanPower_append hrest, if_pos rfl, hvalue]
    · have hvalue : (e.natAbs : Int) = e := by omega
      rw [JsonNumber.exponentChars, if_neg (Int.not_lt.mpr hpos)]
      show scanPower false (Nat.toDigits 10 e.natAbs ++ rest) = _
      rw [scanPower_append hrest, if_neg Bool.false_ne_true, hvalue]

/-- Neither an exponent nor what is behind a number begins with a digit or a point. -/
theorem head?_exponentChars_append (e : Option Int) {rest : List Char} (hrest : EndsNumber rest) :
    ∀ c ∈ (JsonNumber.exponentChars e ++ rest).head?, c.isDigit = false ∧ c ≠ '.' := by
  rcases e with - | e
  · intro c hc
    obtain ⟨hdigit, hpoint, -, -⟩ := hrest c hc
    exact ⟨hdigit, hpoint⟩
  · intro c hc
    obtain rfl : 'e' = c := Option.some.inj hc
    decide

theorem scanFraction_append {ds rest : List Char} (hds : ∀ c ∈ ds, c.isDigit = true)
    (hrest : ∀ c ∈ rest.head?, c.isDigit = false ∧ c ≠ '.') :
    scanFraction (JsonNumber.fractionChars ds ++ rest) = some (ds, rest) := by
  rcases ds with - | ⟨d, ds⟩
  · rcases rest with - | ⟨c, rest⟩
    · rfl
    · obtain ⟨-, hpoint⟩ := hrest c rfl
      show scanFraction (c :: rest) = _
      rw [scanFraction]
      exact fun rest' h => hpoint (List.cons.inj h).1
  · show scanFraction ('.' :: (d :: ds ++ rest)) = _
    rw [scanFraction, scanDigits_append hds fun c hc => (hrest c hc).1]
    rfl

theorem scanUnsigned_append {n : JsonNumber} (h : n.Writable) {rest : List Char}
    (hrest : EndsNumber rest) :
    scanUnsigned n.negative (n.whole ++ (JsonNumber.fractionChars n.fraction
      ++ (JsonNumber.exponentChars n.exponent ++ rest))) = some (n, rest) := by
  obtain ⟨negative, whole, fraction, exponent⟩ := n
  obtain ⟨c, ds, rfl, hzero⟩ := h.leading
  -- each part ends where the next begins, as none of them begins like the one before
  have hexponent := head?_exponentChars_append exponent hrest
  have hfraction : ∀ c ∈ (JsonNumber.fractionChars fraction
      ++ (JsonNumber.exponentChars exponent ++ rest)).head?, c.isDigit = false := by
    rcases fraction with - | ⟨d, fraction⟩
    · exact fun c hc => (hexponent c hc).1
    · intro c hc
      obtain rfl : '.' = c := Option.some.inj hc
      rfl
  have hscanned : scanFraction (JsonNumber.fractionChars fraction
      ++ (JsonNumber.exponentChars exponent ++ rest))
      = some (fraction, JsonNumber.exponentChars exponent ++ rest) :=
    scanFraction_append h.fraction hexponent
  rw [scanUnsigned, scanDigits_append h.whole hfraction]
  simp only
  split
  · next hnil => exact absurd hnil (List.cons_ne_nil c ds)
  -- a zero in front of other digits would be refused
  · next hzeros =>
    obtain ⟨rfl, hds⟩ := List.cons.inj hzeros
    exact absurd (hds.symm.trans (hzero rfl)) (List.cons_ne_nil _ _)
  · simp only [hscanned, scanExponent_append exponent hrest]

/-- **A number is read back**, whatever is behind it that is not part of it. -/
theorem scanNumber_chars {n : JsonNumber} (h : n.Writable) {rest : List Char}
    (hrest : EndsNumber rest) : scanNumber (n.chars ++ rest) = some (n, rest) := by
  have hunsigned := scanUnsigned_append h hrest
  obtain ⟨c, ds, hwhole, -⟩ := h.leading
  have hdigit : c.isDigit = true := h.whole c (by rw [hwhole]; exact List.mem_cons_self)
  rw [JsonNumber.chars, List.append_assoc, List.append_assoc, List.append_assoc]
  rcases hnegative : n.negative with - | -
  · have hminus : c ≠ '-' := by
      rintro rfl
      exact absurd hdigit (by decide)
    rw [hnegative, hwhole] at hunsigned
    rw [hwhole]
    show scanNumber (c :: (ds ++ _)) = _
    rw [scanNumber]
    · exact hunsigned
    · exact fun rest' heq => hminus (List.cons.inj heq).1
  · rw [hnegative] at hunsigned
    exact hunsigned

end Json

end TurtleTree
