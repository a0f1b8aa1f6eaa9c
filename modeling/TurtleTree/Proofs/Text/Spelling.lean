/-
TurtleTree/Proofs/Text/Spelling.lean

Every list of octets has one spelling in base64, and reading accepts no other.

What base64 is can be said without groups and remainders (`Base64.Spells`): the bits of
the symbols, six from each, are the bits of the octets, eight from each, with fewer than
six zeros behind them.  Two spellings of the same octets have equally many bits, because
their numbers of symbols differ in less than one; so they are the same symbol by symbol
(`Spells.unique`).  What is written is a spelling, checked group by group (`spells_encode`).

Reading goes the way of writing back: a symbol is that of its number (`symbol_of_index?`),
and six-bit numbers are those of the octets that they are grouped into
(`sextets_of_regroup`).

Main result: `decode?_eq_some_iff_spells`.
-/
import TurtleTree.Proofs.Text.Base64
import Mathlib.Data.List.Basic
import Mathlib.Data.List.Induction
import Mathlib.Data.Nat.Bitwise

namespace TurtleTree

namespace Base64

/-! ### Spellings -/

/-- The symbols, in the order of their six-bit numbers. -/
def alphabet : List Char :=
  "ABCDEFGHIJKLMNOPQRSTUVWXYZabcdefghijklmnopqrstuvwxyz0123456789+/".toList

/-- The lowest `w` bits of a number, the highest of them first. -/
def bits : Nat → Nat → List Bool
  | 0, _ => []
  | w + 1, n => n.testBit w :: bits w n

/-- The bits that symbols stand for. -/
def symbolBits (symbols : List Char) : List Bool :=
  symbols.flatMap fun c => bits 6 (alphabet.idxOf c)

/-- The bits of octets. -/
def octetBits (octets : List UInt8) : List Bool := octets.flatMap fun a => bits 8 a.toNat

/-- The symbols are of the alphabet, and their bits are those of the octets with fewer than
six zeros behind them. -/
structure Spells (symbols : List Char) (octets : List UInt8) : Prop where
  mem_alphabet : ∀ c ∈ symbols, c ∈ alphabet
  bits_eq : ∃ unused < 6, symbolBits symbols = octetBits octets ++ List.replicate unused false

/-! ### Bits -/

@[simp] theorem length_bits (w n : Nat) : (bits w n).length = w := by
  induction w with
  | zero => rfl
  | succ w ih => rw [bits, List.length_cons, ih]

theorem bits_eq_iff {w m n : Nat} :
    bits w m = bits w n ↔ ∀ i < w, m.testBit i = n.testBit i := by
  induction w with
  | zero => simp [bits]
  | succ w ih =>
    rw [bits, bits, List.cons.injEq, ih]
    constructor
    · rintro ⟨hlast, hrest⟩ i hi
      rcases Nat.lt_succ_iff_lt_or_eq.mp hi with h | rfl
      · exact hrest i h
      · exact hlast
    · exact fun h => ⟨h w (Nat.lt_succ_self w), fun i hi => h i (Nat.lt_succ_of_lt hi)⟩

/-- A number is known from its bits. -/
theorem eq_of_bits_eq {w m n : Nat} (hm : m < 2 ^ w) (hn : n < 2 ^ w)
    (h : bits w m = bits w n) : m = n := by
  refine Nat.eq_of_testBit_eq fun i => ?_
  rcases Nat.lt_or_ge i w with hi | hi
  · exact bits_eq_iff.mp h i hi
  · have hpow : 2 ^ w ≤ 2 ^ i := Nat.pow_le_pow_right (by omega) hi
    rw [Nat.testBit_lt_two_pow (by omega), Nat.testBit_lt_two_pow (by omega)]

/-- The bits of a number in two parts. -/
theorem bits_add (v : Nat) {w n : Nat} (m : Nat) (hn : n < 2 ^ w) :
    bits (v + w) (m * 2 ^ w + n) = bits v m ++ bits w n := by
  have hbit : ∀ j, (m * 2 ^ w + n).testBit j
      = if j < w then n.testBit j else m.testBit (j - w) := by
    intro j
    rw [Nat.mul_comm]
    exact Nat.testBit_two_pow_mul_add m hn j
  induction v with
  | zero =>
    rw [Nat.zero_add, bits, List.nil_append, bits_eq_iff]
    intro i hi
    rw [hbit, if_pos hi]
  | succ v ih =>
    rw [Nat.succ_add, bits, ih, bits, hbit, if_neg (by omega), Nat.add_sub_cancel]
    rfl

/-- Zeros at the end of a number are zeros at the end of its bits. -/
theorem bits_mul_two_pow (v w m : Nat) :
    bits (v + w) (m * 2 ^ w) = bits v m ++ List.replicate w false := by
  have hzero : bits w 0 = List.replicate w false := by
    induction w with
    | zero => rfl
    | succ w ih => rw [bits, ih, Nat.zero_testBit, List.replicate_succ]
  have hadd := bits_add v (w := w) (n := 0) m (Nat.two_pow_pos w)
  rwa [Nat.add_zero, hzero] at hadd

/-- The number with the digits given, of `w` bits each. -/
def ofDigits (w : Nat) (ds : List Nat) : Nat := ds.foldl (fun m d => m * 2 ^ w + d) 0

/-- The bits of a number are those of its digits. -/
theorem bits_ofDigits {w : Nat} {ds : List Nat} (h : ∀ d ∈ ds, d < 2 ^ w) :
    bits (ds.length * w) (ofDigits w ds) = ds.flatMap (bits w) := by
  -- from the end, where the lowest digit stands
  induction ds using List.reverseRecOn with
  | nil => rw [List.length_nil, Nat.zero_mul]; rfl
  | append_singleton ds d ih =>
    have hlength : (ds ++ [d]).length * w = ds.length * w + w := by
      rw [List.length_append, List.length_singleton, Nat.succ_mul]
    have hvalue : ofDigits w (ds ++ [d]) = ofDigits w ds * 2 ^ w + d := by
      rw [ofDigits, List.foldl_append]
      rfl
    rw [hlength, hvalue, bits_add _ _ (h d (by simp)), ih fun e he => h e (by simp [he]),
      List.flatMap_append, List.flatMap_singleton]

/-- Digits of six bits have the bits of digits of eight bits and some zeros, if they make up
the same number with these zeros behind it. -/
theorem flatMap_bits_eq (ds es : List Nat) (unused : Nat) (hd : ∀ d ∈ ds, d < 64)
    (he : ∀ e ∈ es, e < 256) (hlength : ds.length * 6 = es.length * 8 + unused)
    (hvalue : ofDigits 6 ds = ofDigits 8 es * 2 ^ unused) :
    ds.flatMap (bits 6) = es.flatMap (bits 8) ++ List.replicate unused false := by
  rw [← bits_ofDigits hd, ← bits_ofDigits he, hlength, hvalue, bits_mul_two_pow]

/-! ### What is written is a spelling -/

theorem alphabet_symbol {n : Nat} (h : n < 64) :
    symbol n ∈ alphabet ∧ alphabet.idxOf (symbol n) = n := by
  have hall : ∀ n : Fin 64, symbol n ∈ alphabet ∧ alphabet.idxOf (symbol n) = n.val := by
    decide +kernel
  exact hall ⟨n, h⟩

/-- The bits of written symbols are those of their numbers. -/
theorem symbolBits_map_symbol {ns : List Nat} (h : ∀ n ∈ ns, n < 64) :
    symbolBits (ns.map symbol) = ns.flatMap (bits 6) := by
  rw [symbolBits, List.flatMap_map]
  exact List.flatMap_congr fun n hn => congrArg (bits 6) (alphabet_symbol (h n hn)).2

/-- Octets are cut into six-bit numbers group by group, and the last of these is filled up. -/
theorem exists_bits_sextets (octets : List UInt8) :
    ∃ unused < 6, (sextets octets).flatMap (bits 6)
      = octetBits octets ++ List.replicate unused false := by
  fun_induction sextets octets with
  | case1 => exact ⟨0, by omega, rfl⟩
  | case2 a =>
    have ha := a.toNat_lt
    have hgroup := flatMap_bits_eq [a.toNat / 4, a.toNat % 4 * 16] [a.toNat] 4
      (by simp; omega) (by simp; omega) (by simp) (by simp [ofDigits]; omega)
    exact ⟨4, by omega, hgroup⟩
  | case3 a b n =>
    have ha := a.toNat_lt
    have hb := b.toNat_lt
    have hgroup := flatMap_bits_eq [n / 1024, n / 16 % 64, n % 16 * 4]
      [a.toNat, b.toNat] 2 (by simp; omega) (by simp; omega) (by simp)
      (by simp [ofDigits]; omega)
    exact ⟨2, by omega, hgroup⟩
  | case4 a b c rest n ih =>
    have ha := a.toNat_lt
    have hb := b.toNat_lt
    have hc := c.toNat_lt
    obtain ⟨unused, hfew, hrest⟩ := ih
    have hgroup := flatMap_bits_eq [n / 262144, n / 4096 % 64, n / 64 % 64, n % 64]
      [a.toNat, b.toNat, c.toNat] 0 (by simp; omega) (by simp; omega) (by simp)
      (by simp [ofDigits]; omega)
    refine ⟨unused, hfew, ?_⟩
    show ([n / 262144, n / 4096 % 64, n / 64 % 64, n % 64] ++ sextets rest).flatMap (bits 6)
      = octetBits ([a, b, c] ++ rest) ++ List.replicate unused false
    rw [List.flatMap_append, hgroup, hrest, octetBits, octetBits, List.flatMap_append]
    simp

theorem spells_encode (octets : List UInt8) : Spells (encode octets) octets := by
  have hlt := sextets_lt octets
  rw [encode_eq_map]
  refine ⟨fun c hc => ?_, ?_⟩
  · obtain ⟨n, hn, rfl⟩ := List.mem_map.mp hc
    exact (alphabet_symbol (hlt n hn)).1
  · rw [symbolBits_map_symbol hlt]
    exact exists_bits_sextets octets

/-! ### There is no other spelling -/

theorem length_flatMap_of_length {α β : Type} {f : α → List β} {k : Nat}
    (hf : ∀ x, (f x).length = k) (s : List α) : (s.flatMap f).length = k * s.length := by
  induction s with
  | nil => rfl
  | cons x s ih =>
    rw [List.flatMap_cons, List.length_append, hf, ih, List.length_cons, Nat.mul_succ,
      Nat.add_comm]

/-- Parts of one length can be told apart again when they are joined. -/
theorem eq_of_flatMap_eq {α β : Type} {f : α → List β} {k : Nat} (hk : 0 < k)
    (hf : ∀ x, (f x).length = k) {s u : List α}
    (hinj : ∀ x ∈ s, ∀ y ∈ u, f x = f y → x = y) (h : s.flatMap f = u.flatMap f) : s = u := by
  have hlength : s.length = u.length := by
    have heq := congrArg List.length h
    rw [length_flatMap_of_length hf, length_flatMap_of_length hf] at heq
    exact Nat.eq_of_mul_eq_mul_left hk heq
  induction s generalizing u with
  | nil => exact (List.length_eq_zero_iff.mp hlength.symm).symm
  | cons x s ih =>
    obtain _ | ⟨y, u⟩ := u
    · cases hlength
    · rw [List.flatMap_cons, List.flatMap_cons] at h
      obtain ⟨hhead, htail⟩ := List.append_inj h ((hf x).trans (hf y).symm)
      rw [hinj x List.mem_cons_self y List.mem_cons_self hhead,
        ih (fun x' hx y' hy => hinj x' (List.mem_cons_of_mem x hx) y' (List.mem_cons_of_mem y hy))
          htail (Nat.succ.inj hlength)]

/-- A symbol is known from its bits. -/
theorem eq_of_bits_idxOf {c d : Char} (hc : c ∈ alphabet) (hd : d ∈ alphabet)
    (h : bits 6 (alphabet.idxOf c) = bits 6 (alphabet.idxOf d)) : c = d := by
  have hsize : alphabet.length = 2 ^ 6 := by decide +kernel
  refine (List.idxOf_inj hc).mp (eq_of_bits_eq ?_ ?_ h)
  · rw [← hsize]
    exact List.idxOf_lt_length_of_mem hc
  · rw [← hsize]
    exact List.idxOf_lt_length_of_mem hd

/-- **Octets have one spelling.** -/
theorem Spells.unique {s u : List Char} {octets : List UInt8} (hs : Spells s octets)
    (hu : Spells u octets) : s = u := by
  obtain ⟨hsmem, i, hi, hsbits⟩ := hs
  obtain ⟨humem, j, hj, hubits⟩ := hu
  -- six bits for each symbol, so the unused bits are equally many
  have hsame : i = j := by
    have hslength := congrArg List.length hsbits
    have hulength := congrArg List.length hubits
    rw [symbolBits, length_flatMap_of_length (fun _ => length_bits 6 _), List.length_append,
      List.length_replicate] at hslength hulength
    omega
  rw [hsame, ← hubits] at hsbits
  exact eq_of_flatMap_eq (by omega) (fun _ => length_bits 6 _)
    (fun c hc d hd => eq_of_bits_idxOf (hsmem c hc) (humem d hd)) hsbits

theorem spells_iff {symbols : List Char} {octets : List UInt8} :
    Spells symbols octets ↔ symbols = encode octets :=
  ⟨fun h => h.unique (spells_encode octets), fun h => h ▸ spells_encode octets⟩

/-! ### Reading accepts spellings only -/

/-- Only characters of ASCII have a number. -/
theorem toNat_lt_of_index? {c : Char} {n : Nat} (h : index? c = some n) : c.toNat < 128 := by
  have hle : ∀ d : Char, d.toNat < 128 → c ≤ d → c.toNat < 128 := fun d hd hcd =>
    Nat.lt_of_le_of_lt (UInt32.le_iff_toNat_le.mp hcd) hd
  rw [index?] at h
  split_ifs at h with hupper hlower hdigit hplus hslash
  · exact hle 'Z' (by decide) hupper.2
  · exact hle 'z' (by decide) hlower.2
  · exact hle '9' (by decide) hdigit.2
  · exact hplus ▸ by decide
  · exact hslash ▸ by decide

/-- A character with a number is the symbol of this number. -/
theorem symbol_of_index? {c : Char} {n : Nat} (h : index? c = some n) :
    symbol n = c ∧ n < 64 := by
  have hall : ∀ k : Fin 128, ∀ m ∈ index? (Char.ofNat k), symbol m = Char.ofNat k ∧ m < 64 := by
    decide +kernel
  have hchar := hall ⟨c.toNat, toNat_lt_of_index? h⟩ n
  rw [Char.ofNat_toNat] at hchar
  exact hchar h

theorem eq_map_symbol_of_mapM {s : List Char} {ns : List Nat} (h : s.mapM index? = some ns) :
    s = ns.map symbol ∧ ∀ n ∈ ns, n < 64 := by
  have hread : List.Forall₂ (fun c n => symbol n = c ∧ n < 64) s ns :=
    (mapM_eq_some_iff.mp h).imp fun c n hn => symbol_of_index? hn
  have hsymbols : List.Forall₂ (· = ·) s (ns.map symbol) :=
    List.forall₂_map_right_iff.mpr (hread.imp fun c n hn => hn.1.symm)
  rw [List.forall₂_eq_eq_eq] at hsymbols
  refine ⟨hsymbols, fun n hn => ?_⟩
  obtain ⟨c, -, -, hlt⟩ := exists_of_mem_forall₂ hread hn
  exact hlt

/-- Six-bit numbers that make up octets are those of these octets. -/
theorem sextets_of_regroup {ns : List Nat} {octets : List UInt8} (hlt : ∀ n ∈ ns, n < 64)
    (h : regroup ns = some octets) : sextets octets = ns := by
  have hoctet : ∀ n < 256, (UInt8.ofNat n).toNat = n := fun n hn => by
    rw [UInt8.toNat_ofNat', Nat.mod_eq_of_lt hn]
  fun_induction regroup ns generalizing octets with
  | case1 =>
    obtain rfl := Option.some.inj h
    rfl
  | case2 => exact nomatch h
  | case3 i j hunused =>
    simp only [List.forall_mem_cons] at hlt
    obtain rfl := Option.some.inj h
    rw [sextets, hoctet _ (by omega)]
    simp only [List.cons.injEq, and_true]
    omega
  | case4 => exact nomatch h
  | case5 i j k hunused =>
    simp only [List.forall_mem_cons] at hlt
    obtain rfl := Option.some.inj h
    rename_i n
    simp only [sextets, hoctet (n / 256) (by omega), hoctet (n % 256) (by omega), List.cons.injEq,
      and_true]
    omega
  | case6 => exact nomatch h
  | case7 i j k l rest n =>
    rename_i ih
    simp only [List.forall_mem_cons] at hlt
    obtain ⟨hi, hj, hk, hl, hrest⟩ := hlt
    obtain ⟨os, hos, rfl⟩ := Option.map_eq_some_iff.mp h
    simp only [sextets, hoctet (n / 65536) (by omega), hoctet (n / 256 % 256) (by omega),
      hoctet (n % 256) (by omega), ih hrest hos, List.cons.injEq, and_true]
    omega

/-- **Reading accepts what is written, and nothing else.** -/
theorem decode?_eq_some_iff {symbols : List Char} {octets : List UInt8} :
    decode? symbols = some octets ↔ symbols = encode octets := by
  refine ⟨fun h => ?_, fun h => h ▸ decode?_encode octets⟩
  obtain ⟨ns, hns, hgroup⟩ := Option.bind_eq_some_iff.mp h
  obtain ⟨hsymbols, hlt⟩ := eq_map_symbol_of_mapM hns
  rw [encode_eq_map, sextets_of_regroup hlt hgroup, hsymbols]

/-- **Reading accepts spellings only**, and every spelling. -/
theorem decode?_eq_some_iff_spells {symbols : List Char} {octets : List UInt8} :
    decode? symbols = some octets ↔ Spells symbols octets :=
  decode?_eq_some_iff.trans spells_iff.symm

theorem decode?_eq_none_iff_forall_not_spells {symbols : List Char} :
    decode? symbols = none ↔ ∀ octets, ¬ Spells symbols octets := by
  rw [Option.eq_none_iff_forall_ne_some]
  exact forall_congr' fun octets => not_congr decode?_eq_some_iff_spells

end Base64

end TurtleTree
