/-
TurtleTree/Proofs/Text/Base64.lean

Base64 is read back.

Octets are written by way of six-bit numbers: those are grouped back into the
octets (`regroup_sextets`), and each of them is found again by its symbol
(`index?_symbol`).

Main results: every list of octets is what its written form is read as
(`decode?_encode`), and no written form has a colon, a blank or padding in it
(`plain_of_mem_encode`).
-/
import TurtleTree.Proofs.Elementwise
import TurtleTree.Text.Base64
import TurtleTree.Text.Blank

namespace TurtleTree

namespace Base64

/-! ### Symbols -/

theorem index?_symbol {n : Nat} (h : n < 64) : index? (symbol n) = some n := by
  have hall : ∀ n : Fin 64, index? (symbol n) = some n.val := by decide +kernel
  exact hall ⟨n, h⟩

theorem mapM_index?_symbols {ns : List Nat} (h : ∀ n ∈ ns, n < 64) :
    (ns.map symbol).mapM index? = some ns := by
  rw [mapM_eq_some_iff, List.forall₂_map_left_iff, List.forall₂_same]
  exact fun n hn => index?_symbol (h n hn)

/-! ### Six-bit numbers -/

/-- The six-bit numbers of a list of octets. -/
def sextets : List UInt8 → List Nat
  | [] => []
  | [a] => [a.toNat / 4, a.toNat % 4 * 16]
  | [a, b] =>
    let n := a.toNat * 256 + b.toNat
    [n / 1024, n / 16 % 64, n % 16 * 4]
  | a :: b :: c :: rest =>
    let n := (a.toNat * 256 + b.toNat) * 256 + c.toNat
    n / 262144 :: n / 4096 % 64 :: n / 64 % 64 :: n % 64 :: sextets rest

/-- Octets are written as the symbols of their six-bit numbers. -/
theorem encode_eq_map (octets : List UInt8) : encode octets = (sextets octets).map symbol := by
  fun_induction encode octets with
  | case1 => rfl
  | case2 a => rfl
  | case3 a b => rfl
  | case4 a b c rest n ih =>
    rw [ih]
    rfl

theorem sextets_lt (octets : List UInt8) : ∀ n ∈ sextets octets, n < 64 := by
  fun_induction sextets octets with
  | case1 => simp
  | case2 a =>
    have := a.toNat_lt
    simp
    omega
  | case3 a b n =>
    have := a.toNat_lt
    have := b.toNat_lt
    simp
    omega
  | case4 a b c rest n ih =>
    have := a.toNat_lt
    have := b.toNat_lt
    have := c.toNat_lt
    simp only [List.forall_mem_cons]
    refine ⟨?_, ?_, ?_, ?_, ih⟩ <;> omega

theorem ofNat_eq {n : Nat} {a : UInt8} (h : n = a.toNat) : UInt8.ofNat n = a := by
  rw [h, UInt8.ofNat_toNat]

/-- The six-bit numbers of octets make up these octets. -/
theorem regroup_sextets (octets : List UInt8) : regroup (sextets octets) = some octets := by
  fun_induction sextets octets with
  | case1 => rfl
  | case2 a =>
    have hunused : a.toNat % 4 * 16 % 16 = 0 := Nat.mul_mod_left _ _
    have ha : UInt8.ofNat (a.toNat / 4 * 4 + a.toNat % 4 * 16 / 16) = a := ofNat_eq (by omega)
    rw [regroup, if_pos hunused, ha]
  | case3 a b n =>
    have hb := b.toNat_lt
    have hunused : n % 16 * 4 % 4 = 0 := Nat.mul_mod_left _ _
    have hn : (n / 1024 * 64 + n / 16 % 64) * 16 + n % 16 * 4 / 4 = n := by omega
    have hfirst : UInt8.ofNat (n / 256) = a := ofNat_eq (by omega)
    have hsecond : UInt8.ofNat (n % 256) = b := ofNat_eq (by omega)
    rw [regroup, if_pos hunused, hn]
    show some [UInt8.ofNat (n / 256), UInt8.ofNat (n % 256)] = _
    rw [hfirst, hsecond]
  | case4 a b c rest n ih =>
    have hb := b.toNat_lt
    have hc := c.toNat_lt
    have hn : ((n / 262144 * 64 + n / 4096 % 64) * 64 + n / 64 % 64) * 64 + n % 64 = n := by omega
    have hfirst : UInt8.ofNat (n / 65536) = a := ofNat_eq (by omega)
    have hsecond : UInt8.ofNat (n / 256 % 256) = b := ofNat_eq (by omega)
    have hthird : UInt8.ofNat (n % 256) = c := ofNat_eq (by omega)
    rw [regroup, ih, hn, hfirst, hsecond, hthird]
    rfl

/-! ### Reading back -/

/-- **Octets are read back** from their written form. -/
theorem decode?_encode (octets : List UInt8) : decode? (encode octets) = some octets := by
  rw [decode?, encode_eq_map, mapM_index?_symbols (sextets_lt octets)]
  exact regroup_sextets octets

/-- The alphabet has neither a colon nor the padding, and nothing that is blank. -/
theorem symbol_plain {n : Nat} (h : n < 64) :
    symbol n ≠ ':' ∧ symbol n ≠ '=' ∧ isBlank (symbol n) = false := by
  have hall : ∀ n : Fin 64, symbol n ≠ ':' ∧ symbol n ≠ '=' ∧ isBlank (symbol n) = false := by
    decide +kernel
  exact hall ⟨n, h⟩

/-- A written form has symbols of the alphabet only. -/
theorem plain_of_mem_encode {octets : List UInt8} {c : Char} (h : c ∈ encode octets) :
    c ≠ ':' ∧ c ≠ '=' ∧ isBlank c = false := by
  rw [encode_eq_map, List.mem_map] at h
  obtain ⟨n, hn, rfl⟩ := h
  exact symbol_plain (sextets_lt octets n hn)

end Base64

end TurtleTree
