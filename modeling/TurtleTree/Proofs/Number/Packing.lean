/-
TurtleTree/Proofs/Number/Packing.lean

How numbers are put into words.

A word is a sign bit beside an exponent and a mantissa, and these two do not depend
on the sign (`Single.exists_pack_eq`).  They are read back as they were written, so a
number stays a number (`Single.isNaN_unpack_pack`), and its absolute value can be
taken before it is packed or after (`Single.abs_unpack_pack`).

Main result: equality of numbers is sameness of words, up to the sign of a zero, and
nothing but what is not a number differs from itself (`Single.beq_iff`).
-/
import TurtleTree.Proofs.Number.Equality
import TurtleTree.Proofs.Number.Sum

namespace TurtleTree

namespace Single

open Float.Model

open UnpackedFloat (Sign packComponents)

/-! ### Words -/

/-- The sign bit is read as the sign, and as nothing else. -/
theorem abs_unpack_packComponents (f : Format) (s t : Sign) (exponent : BitVec f.exponentBits)
    (mantissa : BitVec f.mantissaBitsWithoutImplicit) :
    (UnpackedFloat.unpack f (packComponents f s exponent mantissa)).abs
      = (UnpackedFloat.unpack f (packComponents f t exponent mantissa)).abs := by
  simp only [UnpackedFloat.unpack, UnpackedFloat.unpackExponent_packComponents,
    UnpackedFloat.unpackMantissa_packComponents]
  split
  · split <;> rfl
  · split
    · split <;> rfl
    · rfl

/-- What is packed is a sign beside an exponent and a mantissa that do not depend on it, and
they do not say that it is no number. -/
theorem exists_pack_eq (f : Format) {u : UnpackedFloat} (h : u.isNaN = false) :
    ∃ s exponent mantissa, UnpackedFloat.pack f u = packComponents f s exponent mantissa ∧
      UnpackedFloat.pack f u.abs = packComponents f .positive exponent mantissa ∧
      (exponent = -1#_ → mantissa = 0#_) := by
  cases u with
  | notANumber => exact nomatch h
  | infinity s => exact ⟨s, -1#_, 0, rfl, rfl, fun _ => rfl⟩
  | zero s => exact ⟨s, 0, 0, rfl, rfl, fun _ => rfl⟩
  | finite s m e hm =>
    simp only [UnpackedFloat.pack, UnpackedFloat.abs]
    split
    · exact ⟨s, -1#_, 0, rfl, rfl, fun _ => rfl⟩
    · next hfits =>
      have hones : (-1#f.exponentBits).toNat = 2 ^ f.exponentBits - 1 := by
        rw [BitVec.neg_one_eq_allOnes, BitVec.toNat_allOnes]
      split
      · refine ⟨s, _, _, rfl, rfl, fun hexponent => ?_⟩
        have hword := congrArg BitVec.toNat hexponent
        rw [hones, BitVec.toNat_ofNat, Nat.mod_eq_of_lt (by omega)] at hword
        omega
      · refine ⟨s, _, _, rfl, rfl, fun hexponent => ?_⟩
        have hword := congrArg BitVec.toNat hexponent
        have hroom : 1 < 2 ^ f.exponentBits := Nat.one_lt_two_pow (Nat.pos_iff_ne_zero.mp f.he)
        rw [hones, BitVec.toNat_ofNat, Nat.zero_mod] at hword
        omega

theorem abs_unpack_pack (f : Format) (u : UnpackedFloat) :
    (UnpackedFloat.unpack f (UnpackedFloat.pack f u)).abs
      = (UnpackedFloat.unpack f (UnpackedFloat.pack f u.abs)).abs := by
  rcases h : u.isNaN with - | -
  · obtain ⟨s, exponent, mantissa, hpack, habs, -⟩ := exists_pack_eq f h
    rw [hpack, habs]
    exact abs_unpack_packComponents f s .positive exponent mantissa
  · cases u with
    | notANumber => rfl
    | _ => exact nomatch h

/-- A number stays one when it is packed. -/
theorem isNaN_unpack_pack (f : Format) {u : UnpackedFloat} (h : u.isNaN = false) :
    (UnpackedFloat.unpack f (UnpackedFloat.pack f u)).isNaN = false := by
  obtain ⟨s, exponent, mantissa, hpack, -, hones⟩ := exists_pack_eq f h
  rw [hpack]
  simp only [UnpackedFloat.unpack, UnpackedFloat.unpackExponent_packComponents,
    UnpackedFloat.unpackMantissa_packComponents]
  split
  · next hexponent =>
    rw [if_pos (hones hexponent)]
    rfl
  · split
    · split <;> rfl
    · rfl

/-! ### Zeros -/

/-- Only zeros have the absolute value zero. -/
theorem eq_zero_of_abs_eq_zero {x : Float32} (h : x.abs = 0) : x = 0 ∨ x = -0 := by
  have hbits : UnpackedFloat.pack .binary32 x.toModel.unpack.abs
      = packComponents .binary32 .positive 0#_ 0#_ :=
    congrArg (fun y : Float32 => y.toBits.toBitVec) h
  rcases hx : x.toModel.unpack.isNaN with - | -
  · obtain ⟨s, exponent, mantissa, hpack, habs, -⟩ := exists_pack_eq .binary32 hx
    rw [habs] at hbits
    have hexponent := congrArg UnpackedFloat.unpackExponent hbits
    have hmantissa := congrArg UnpackedFloat.unpackMantissa hbits
    rw [UnpackedFloat.unpackExponent_packComponents,
      UnpackedFloat.unpackExponent_packComponents] at hexponent
    rw [UnpackedFloat.unpackMantissa_packComponents,
      UnpackedFloat.unpackMantissa_packComponents] at hmantissa
    rw [hexponent, hmantissa] at hpack
    have hzero : ∀ y : Float32, y.toBits.toBitVec = packComponents .binary32 s 0#_ 0#_ → x = y := by
      intro y hy
      rw [← Float32.toBits_inj, ← UInt32.toBitVec_inj, hy, ← hpack]
      exact congrArg (fun z : Float32 => z.toBits.toBitVec) (pack_unpack x).symm
    cases s with
    | positive => exact Or.inl (hzero 0 (by decide +kernel))
    | negative => exact Or.inr (hzero (-0) (by decide +kernel))
  · rw [UnpackedFloat.isNaN_iff.mp hx] at hbits
    exact absurd hbits (by decide +kernel)

theorem abs_eq_zero_iff {x : Float32} : x.abs = 0 ↔ x = 0 ∨ x = -0 := by
  constructor
  · exact eq_zero_of_abs_eq_zero
  · rintro (rfl | rfl) <;> decide +kernel

/-- Zeros are numbers. -/
theorem SameUpToZero.isNaN_eq {x y : Float32} (h : SameUpToZero x y) : x.isNaN = y.isNaN := by
  have hzero : ∀ z : Float32, z.abs = 0 → z.isNaN = false := by
    intro z hz
    rcases eq_zero_of_abs_eq_zero hz with rfl | rfl <;> decide +kernel
  rcases h with rfl | ⟨hx, hy⟩
  · rfl
  · rw [hzero x hx, hzero y hy]

/-- **Equal numbers** have the same word, up to the sign of a zero, and are numbers. -/
theorem beq_iff {x y : Float32} : (x == y) = true ↔ SameUpToZero x y ∧ x.isNaN = false := by
  rw [Float32.beq_iff_ne_nan_and_eq, SameUpToZero, abs_eq_zero_iff, abs_eq_zero_iff,
    Float32.isNaN_eq_decide_eq_nan, decide_eq_false_iff_not]
  have hzero : (0 : Float32) ≠ .nan := by decide +kernel
  have hminus : (-0 : Float32) ≠ .nan := by decide +kernel
  grind

end Single

end TurtleTree
