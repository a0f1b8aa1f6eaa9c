/-
TurtleTree/Proofs/Grammar/Census.lean

How many symbols of each kind an expansion has.

A pass treats every symbol by itself, so a count after it is linear in the counts
before: each `F` brings what one `F` becomes, each `G` what one `G` becomes, and
every other symbol is counted as it was (`countP_flatMap_of_other`).  All that is
needed of a rule set is that it replaces `F` and `G` only, and that a `G` is
doubled unless there is none (`Sprouting`).

A leaf needs a forward move before it.  That a string has none of its closing
brackets before its first forward move (`Led`) is kept by passes as well, since
what `F` and `G` become is such a string with a forward move in it.

Main results: the counts after `n` passes of a catalogued rule set in closed form
(`census_applyTimes_of_mem_catalogue`), and all its expansions are led
(`led_applyTimes_of_mem_catalogue`).
-/
import TurtleTree.Proofs.Grammar.Brackets
import TurtleTree.Proofs.Grammar.Passes
import TurtleTree.Proofs.Turtle.Moves
import Mathlib.Algebra.Ring.GeomSum
import Mathlib.Data.Bool.AllAny
import Mathlib.Data.String.Basic
import Mathlib.Tactic.Ring

namespace TurtleTree

/-! ### Counts -/

/-- How many symbols of each kind a string has. -/
structure Census where
  /-- Number of `F`. -/
  shoots : Nat
  /-- Number of `G`. -/
  stems : Nat
  /-- Number of `]`. -/
  closings : Nat
  /-- Number of all symbols. -/
  symbols : Nat
deriving DecidableEq, Repr

namespace Census

/-- The census of a string. -/
def ofSymbols (s : List Char) : Census := ⟨s.count 'F', s.count 'G', s.count ']', s.length⟩

/-- Number of `G` after `n` passes, if `c` is the census of what `F` becomes and every `G`
is doubled. -/
def stemsAfter (c : Census) : Nat → Nat
  | 0 => 0
  | n + 1 => c.stems * c.shoots ^ n + 2 * c.stemsAfter n

/-- Number of `]` after `n` passes: the geometric sum of those that come with each pass. -/
def closingsAfter (c : Census) (n : Nat) : Nat :=
  c.closings * (c.shoots ^ n - 1) / (c.shoots - 1)

/-- Number of all symbols after `n` passes. -/
def symbolsAfter (c : Census) : Nat → Nat
  | 0 => 1
  | n + 1 => c.symbolsAfter n + (c.symbols - 1) * c.shoots ^ n + c.stemsAfter n

/-- The census after `n` passes over a single `F`. -/
def after (c : Census) (n : Nat) : Census :=
  ⟨c.shoots ^ n, c.stemsAfter n, c.closingsAfter n, c.symbolsAfter n⟩

/-- The geometric sum is exact. -/
theorem dvd_closings (c : Census) (n : Nat) :
    c.shoots - 1 ∣ c.closings * (c.shoots ^ n - 1) :=
  Dvd.dvd.mul_left (Nat.sub_one_dvd_pow_sub_one c.shoots n) c.closings

/-- A pass adds the brackets of what the present `F` become. -/
theorem closingsAfter_succ (c : Census) (h : 1 < c.shoots) (n : Nat) :
    c.closingsAfter (n + 1) = c.closings * c.shoots ^ n + c.closingsAfter n := by
  obtain ⟨f, hf⟩ : ∃ f, c.shoots = f + 1 := ⟨c.shoots - 1, by omega⟩
  obtain ⟨q, hq⟩ : ∃ q, c.shoots ^ n = q + 1 :=
    ⟨c.shoots ^ n - 1, by have := Nat.pow_pos (n := n) (Nat.zero_lt_of_lt h); omega⟩
  have hsplit : c.closings * (c.shoots ^ (n + 1) - 1)
      = c.closings * (c.shoots ^ n - 1) + f * (c.closings * c.shoots ^ n) := by
    have hnext : c.shoots ^ (n + 1) - 1 = q + f * (q + 1) := by
      rw [Nat.pow_succ, hq, hf, Nat.mul_add, Nat.mul_one, Nat.mul_comm]
      omega
    rw [hnext, hq, Nat.add_sub_cancel]
    ring
  have hstep : c.shoots - 1 = f := by omega
  rw [closingsAfter, closingsAfter, hsplit, hstep, Nat.add_mul_div_left _ _ (by omega),
    Nat.add_comm]

/-- Where something is added to every `F`, each pass makes a string longer. -/
theorem symbolsAfter_lt_succ (c : Census) (hshoots : 0 < c.shoots) (hsymbols : 1 < c.symbols)
    (n : Nat) : c.symbolsAfter n < c.symbolsAfter (n + 1) := by
  have hadded : 0 < (c.symbols - 1) * c.shoots ^ n :=
    Nat.mul_pos (by omega) (Nat.pow_pos hshoots)
  rw [symbolsAfter]
  omega

end Census

/-! ### Strings that are led by a forward move -/

/-- No bracket is closed before the first forward move. -/
def Led : List Char → Bool
  | [] => true
  | x :: s => Turtle.isForward x || (x != ']' && Led s)

theorem led_append (s u : List Char) :
    Led (s ++ u) = (Led s && (s.any Turtle.isForward || Led u)) := by
  induction s with
  | nil => rfl
  | cons x s ih =>
    rw [List.cons_append, Led, Led, ih, List.any_cons]
    rcases Turtle.isForward x <;> rcases x != ']' <;> rfl

/-- Every closing bracket has a forward move before it. -/
theorem exists_forward_of_led {s : List Char} (h : Led s = true) {i : Nat}
    (hi : s[i]? = some ']') : ∃ x ∈ s.take i, Turtle.isForward x = true := by
  induction s generalizing i with
  | nil => exact absurd hi (by simp)
  | cons y s ih =>
    rw [Led, Bool.or_eq_true, Bool.and_eq_true] at h
    rcases i with - | i
    -- the bracket is the first symbol, which is neither forward nor another one
    · obtain rfl : y = ']' := by simpa using hi
      rcases h with h | ⟨h, -⟩
      · exact absurd h (by decide)
      · exact absurd h (by decide)
    · rcases h with h | ⟨-, h⟩
      · exact ⟨y, by simp, h⟩
      · obtain ⟨x, hx, hforward⟩ := ih h (i := i) (by simpa using hi)
        exact ⟨x, by simp [hx], hforward⟩

namespace RuleSet

variable {r : RuleSet}

/-- The census of what `F` becomes. -/
def sprout (r : RuleSet) : Census := Census.ofSymbols (r.image 'F')

/-- The rule set replaces `F` and `G` only.  A `G` is doubled, unless `F` never brings one. -/
structure Sprouting (r : RuleSet) : Prop where
  other : ∀ x, x ≠ 'F' → x ≠ 'G' → r.image x = [x]
  stem : r.image 'G' = ['G', 'G'] ∨ r.image 'G' = ['G'] ∧ r.sprout.stems = 0
  fork : 1 < r.sprout.shoots

/-- It is enough to look at the symbols that own a rule. -/
theorem image_of_forall_ne {x : Char} (h : ∀ rule ∈ r.rules, rule.predecessor ≠ x) :
    r.image x = [x] := by
  rcases r.image_cases x with ⟨rule, hrule, hx, -⟩ | ⟨-, himage⟩
  · exact absurd hx (h rule hrule)
  · exact himage

theorem sprouting_of_mem_catalogue (h : r ∈ catalogue) : r.Sprouting where
  other := by
    have howners : ∀ r ∈ catalogue, ∀ rule ∈ r.rules,
        rule.predecessor = 'F' ∨ rule.predecessor = 'G' := by decide +kernel
    intro x hF hG
    refine image_of_forall_ne ?_
    rintro rule hrule rfl
    rcases howners r h rule hrule with heq | heq
    · exact hF heq
    · exact hG heq
  stem := by
    have hstems : ∀ r ∈ catalogue, r.image 'G' = ['G', 'G'] ∨
        r.image 'G' = ['G'] ∧ r.sprout.stems = 0 := by decide +kernel
    exact hstems r h
  fork := by
    have hforks : ∀ r ∈ catalogue, 1 < r.sprout.shoots := by decide +kernel
    exact hforks r h

/-! ### One pass -/

/-- **Counts are linear** in the numbers of `F` and `G`, if only these are replaced. -/
theorem countP_flatMap_of_other {f : Char → List Char}
    (hother : ∀ x, x ≠ 'F' → x ≠ 'G' → f x = [x]) (p : Char → Bool) (s : List Char) :
    (s.flatMap f).countP p
      = (f 'F').countP p * s.count 'F' + (f 'G').countP p * s.count 'G'
        + s.countP fun x => p x && x != 'F' && x != 'G' := by
  induction s with
  | nil => rfl
  | cons x s ih =>
    rw [List.flatMap_cons, List.countP_append, ih]
    rcases eq_or_ne x 'F' with rfl | hF
    · simp
      ring
    rcases eq_or_ne x 'G' with rfl | hG
    · simp
      ring
    · rw [hother x hF hG]
      simp [hF, hG, List.countP_cons]
      omega

namespace Sprouting

variable {s : List Char}

/-- What a `G` becomes has neither an `F` nor a bracket. -/
theorem countP_image_stem (h : r.Sprouting) {p : Char → Bool} (hp : p 'G' = false) :
    (r.image 'G').countP p = 0 := by
  rcases h.stem with hG | ⟨hG, -⟩ <;> simp [hG, hp]

theorem count_shoots (h : r.Sprouting) :
    (s.flatMap r.image).count 'F' = r.sprout.shoots * s.count 'F' := by
  have hcount := countP_flatMap_of_other h.other (· == 'F') s
  have hrest : (s.countP fun x => x == 'F' && x != 'F' && x != 'G') = 0 := by
    rw [List.countP_eq_zero]
    intro x _
    rcases eq_or_ne x 'F' with rfl | hx <;> simp [*]
  rw [hrest, h.countP_image_stem rfl, Nat.zero_mul] at hcount
  exact hcount

/-- A `G` is doubled wherever there is one. -/
theorem doubled_or_absent (h : r.Sprouting) (hs : r.sprout.stems = 0 → s.count 'G' = 0) :
    r.image 'G' = ['G', 'G'] ∨ s.count 'G' = 0 :=
  h.stem.imp_right fun hstem => hs hstem.2

/-- A pass doubles the number of `G` that are there, also if there never are any. -/
theorem count_stems (h : r.Sprouting) (hs : r.sprout.stems = 0 → s.count 'G' = 0) :
    (s.flatMap r.image).count 'G' = r.sprout.stems * s.count 'F' + 2 * s.count 'G' := by
  have hcount := countP_flatMap_of_other h.other (· == 'G') s
  have hrest : (s.countP fun x => x == 'G' && x != 'F' && x != 'G') = 0 := by
    rw [List.countP_eq_zero]
    intro x _
    rcases eq_or_ne x 'G' with rfl | hx <;> simp [*]
  have hstem : ((r.image 'G').countP fun x => x == 'G') * s.count 'G' = 2 * s.count 'G' := by
    rcases h.doubled_or_absent hs with hG | hnone
    · rw [hG]
      rfl
    · rw [hnone]
      rfl
  rw [hrest, hstem] at hcount
  exact hcount

theorem count_closings (h : r.Sprouting) :
    (s.flatMap r.image).count ']' = r.sprout.closings * s.count 'F' + s.count ']' := by
  have hcount := countP_flatMap_of_other h.other (· == ']') s
  have hrest : (s.countP fun x => x == ']' && x != 'F' && x != 'G') = s.count ']' := by
    refine List.countP_congr fun x _ => ?_
    rcases eq_or_ne x ']' with rfl | hx <;> simp [*]
  rw [hrest, h.countP_image_stem rfl, Nat.zero_mul, Nat.add_zero] at hcount
  exact hcount

/-- A pass makes a string longer by what every `F` adds and by one for each `G`. -/
theorem length_flatMap (h : r.Sprouting) (hs : r.sprout.stems = 0 → s.count 'G' = 0) :
    (s.flatMap r.image).length
      = s.length + (r.sprout.symbols - 1) * s.count 'F' + s.count 'G' := by
  have hcount := countP_flatMap_of_other h.other (fun _ => true) s
  -- the same law for the pass that replaces nothing: a string is its `F`, its `G` and the others
  have hkinds := countP_flatMap_of_other (f := fun x => [x]) (fun _ _ _ => rfl)
    (fun _ => true) s
  rw [List.flatMap_singleton'] at hkinds
  have hstem : (r.image 'G').length * s.count 'G' = 2 * s.count 'G' := by
    rcases h.doubled_or_absent hs with hG | hnone
    · rw [hG]
      rfl
    · rw [hnone]
      rfl
  obtain ⟨l, hl⟩ : ∃ l, (r.image 'F').length = l + 1 := by
    have hfork : r.sprout.shoots ≤ (r.image 'F').length := List.count_le_length
    have := h.fork
    exact ⟨(r.image 'F').length - 1, by omega⟩
  have hadded : r.sprout.symbols - 1 = l := by
    show (r.image 'F').length - 1 = l
    omega
  simp only [List.countP_true, hstem, hl, Nat.add_mul] at hcount hkinds
  rw [hadded]
  simp only [List.length_singleton, Nat.one_mul] at hcount hkinds
  omega

/-! ### Many passes -/

/-- **The census of an expansion**, by the number of passes. -/
theorem census_applyTimes (h : r.Sprouting) (n : Nat) :
    Census.ofSymbols (r.applyTimes n commonStart).toList = r.sprout.after n := by
  induction n with
  | zero =>
    have hstart : commonStart.toList = ['F'] := by decide +kernel
    have hnone : r.sprout.closingsAfter 0 = 0 := by simp [Census.closingsAfter]
    rw [applyTimes, hstart, Census.after, hnone, Nat.pow_zero]
    rfl
  | succ n ih =>
    obtain ⟨hshoots, hstems, hclosings, hsymbols⟩ := Census.mk.inj ih
    -- where `F` brings no `G`, the start has none and no pass makes one
    have hnone : r.sprout.stems = 0 →
        (r.applyTimes n commonStart).toList.count 'G' = 0 := by
      intro hzero
      have hall : ∀ k, r.sprout.stemsAfter k = 0 := by
        intro k
        induction k with
        | zero => rfl
        | succ k ihk => rw [Census.stemsAfter, hzero, ihk, Nat.zero_mul]
      rw [hstems, hall]
    rw [applyTimes_succ, toList_apply, Census.ofSymbols, h.count_shoots, h.count_stems hnone,
      h.count_closings, h.length_flatMap hnone, hshoots, hstems, hclosings, hsymbols]
    rw [Census.after, Census.closingsAfter_succ _ h.fork, Nat.pow_succ']
    rfl

end Sprouting

/-- The census of an expansion of the catalogue. -/
theorem census_applyTimes_of_mem_catalogue (h : r ∈ catalogue) (n : Nat) :
    Census.ofSymbols (r.applyTimes n r.start).toList = r.sprout.after n := by
  have hstart : ∀ r ∈ catalogue, r.start = commonStart := by decide +kernel
  rw [hstart r h]
  exact (sprouting_of_mem_catalogue h).census_applyTimes n

theorem length_applyTimes_of_mem_catalogue (h : r ∈ catalogue) (n : Nat) :
    (r.applyTimes n r.start).length = r.sprout.symbolsAfter n := by
  rw [← String.length_toList]
  exact congrArg Census.symbols (census_applyTimes_of_mem_catalogue h n)

/-- So each pass makes it longer. -/
theorem length_applyTimes_lt_of_mem_catalogue (h : r ∈ catalogue) (n : Nat) :
    (r.applyTimes n r.start).length < (r.applyTimes (n + 1) r.start).length := by
  have hfork := (sprouting_of_mem_catalogue h).fork
  have hshoots : r.sprout.shoots ≤ r.sprout.symbols := List.count_le_length
  rw [length_applyTimes_of_mem_catalogue h, length_applyTimes_of_mem_catalogue h]
  exact r.sprout.symbolsAfter_lt_succ (by omega) (by omega) n

/-- Without rules a string stays as it is. -/
theorem applyTimes_of_rules_nil (h : r.rules = []) (n : Nat) (s : String) :
    r.applyTimes n s = s := by
  induction n with
  | zero => rfl
  | succ n ih =>
    have himage : ∀ x, r.image x = [x] := by
      intro x
      refine image_of_forall_ne ?_
      rw [h]
      exact fun rule hrule => absurd hrule List.not_mem_nil
    rw [applyTimes_succ, ih, apply, funext himage, List.flatMap_singleton', String.ofList_toList]

/-! ### By number -/

instance : LawfulBEq RuleSetId where
  eq_of_beq h := congrArg RuleSetId.mk (eq_of_beq h)
  rfl := beq_self_eq_true (α := UInt32) _

theorem select_of_mem_catalogue (h : r ∈ catalogue) : select r.id = r := by
  have hselect : ∀ r ∈ catalogue, select r.id = r := by decide +kernel
  exact hselect r h

theorem select_of_forall_ne {id : RuleSetId} (h : ∀ r ∈ catalogue, r.id ≠ id) :
    select id = ⟨id, commonStart, []⟩ := by
  have hnone : catalogue.find? (fun r => r.id == id) = none := by
    rw [List.find?_eq_none]
    intro r hr hid
    exact h r hr (beq_iff_eq.mp hid)
  rw [select, hnone, Option.getD_none]

/-! ### Octets -/

/-- A string of symbols of one octet has as many octets as symbols. -/
theorem utf8Len_eq_length {s : List Char} (h : ∀ x ∈ s, x.utf8Size = 1) :
    String.utf8Len s = s.length := by
  induction s with
  | nil => rfl
  | cons x s ih =>
    rw [String.utf8Len_cons, h x List.mem_cons_self,
      ih fun y hy => h y (List.mem_cons_of_mem x hy), List.length_cons]

/-- All symbols of the catalogue take one octet. -/
theorem utf8ByteSize_applyTimes_of_mem_catalogue (h : r ∈ catalogue) (n : Nat) :
    (r.applyTimes n r.start).utf8ByteSize = (r.applyTimes n r.start).length := by
  have hstart : ∀ r ∈ catalogue, (r.start.toList.all fun x => x.utf8Size = 1) = true := by
    decide +kernel
  have hrules : ∀ r ∈ catalogue,
      (['F', 'G'].all fun x => (r.image x).all fun y => y.utf8Size = 1) = true := by
    decide +kernel
  have hall : ∀ x ∈ (r.applyTimes n r.start).toList, x.utf8Size = 1 := by
    induction n with
    | zero => exact List.all_iff_forall_prop.mp (hstart r h)
    | succ n ih =>
      intro y hy
      have himage := List.all_eq_true.mp (hrules r h)
      rw [applyTimes_succ, toList_apply, List.mem_flatMap] at hy
      obtain ⟨x, hx, hy⟩ := hy
      rcases eq_or_ne x 'F' with rfl | hF
      · exact List.all_iff_forall_prop.mp (himage 'F' (by simp)) y hy
      rcases eq_or_ne x 'G' with rfl | hG
      · exact List.all_iff_forall_prop.mp (himage 'G' (by simp)) y hy
      · rw [(sprouting_of_mem_catalogue h).other x hF hG, List.mem_singleton] at hy
        rw [hy]
        exact ih x hx
  rw [← String.utf8Len_toList, utf8Len_eq_length hall, String.length_toList]

/-! ### The first forward move -/

/-- A pass keeps a string led, if what each symbol becomes is led like the symbol. -/
theorem led_flatMap {f : Char → List Char}
    (hforward : ∀ x, Turtle.isForward x = true → Led (f x) = true ∧
      (f x).any Turtle.isForward = true)
    (hother : ∀ x, Turtle.isForward x = false → f x = [x]) {s : List Char}
    (h : Led s = true) : Led (s.flatMap f) = true := by
  induction s with
  | nil => rfl
  | cons x s ih =>
    rw [List.flatMap_cons, led_append]
    rcases hx : Turtle.isForward x with - | -
    · rw [Led, hx, Bool.false_or, Bool.and_eq_true] at h
      rw [hother x hx, Led, hx, ih h.2, h.1, Led, Bool.or_true]
      rfl
    · obtain ⟨hled, hany⟩ := hforward x hx
      rw [hled, hany]
      rfl

theorem led_applyTimes_of_mem_catalogue (h : r ∈ catalogue) (n : Nat) :
    Led (r.applyTimes n r.start).toList = true := by
  have hstart : ∀ r ∈ catalogue, Led r.start.toList = true := by decide +kernel
  have hrules : ∀ r ∈ catalogue, (['F', 'G'].all fun x =>
      Led (r.image x) && (r.image x).any Turtle.isForward) = true := by decide +kernel
  induction n with
  | zero => exact hstart r h
  | succ n ih =>
    rw [applyTimes_succ, toList_apply]
    refine led_flatMap ?_ ?_ ih
    · intro x hx
      have hled := List.all_eq_true.mp (hrules r h) x (by simpa [Turtle.isForward] using hx)
      rwa [Bool.and_eq_true] at hled
    · intro x hx
      obtain ⟨hF, hG⟩ : x ≠ 'F' ∧ x ≠ 'G' := by simpa [Turtle.isForward] using hx
      exact (sprouting_of_mem_catalogue h).other x hF hG

end RuleSet

end TurtleTree
