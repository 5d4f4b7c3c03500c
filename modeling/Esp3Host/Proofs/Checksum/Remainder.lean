import Mathlib.Algebra.CharP.Two
import Mathlib.Algebra.Field.ZMod
import Mathlib.Algebra.Polynomial.Div
import Mathlib.Tactic.ComputeDegree
import Mathlib.Tactic.LinearCombination
import Esp3Host.Proofs.Checksum.Bits

/-!
# The checksum as a remainder

Bits are the coefficients of a polynomial over the field of two elements, the highest one first.
Exclusive or adds polynomials.  A bit that enters the register multiplies its polynomial by `X`, adds
`X ^ 8` if the bit is set, and takes the generator off as often as it takes to stay below degree 8.
-/

namespace Esp3Host

open Polynomial

noncomputable def bitPolynomial : List Bool → (ZMod 2)[X]
  | [] => 0
  | bit :: rest => C (bit.toNat : ZMod 2) * X ^ rest.length + bitPolynomial rest

noncomputable def Bytes.polynomial (bytes : Bytes) : (ZMod 2)[X] := bitPolynomial bytes.bits

/-! ## Polynomials of bits -/

theorem degree_bitPolynomial (bits : List Bool) : (bitPolynomial bits).degree < bits.length := by
  induction bits with
  | nil => simp [bitPolynomial]
  | cons bit rest ih =>
      have hnext : (rest.length : WithBot ℕ) < ((bit :: rest).length : ℕ) := by
        exact_mod_cast Nat.lt_succ_self _
      have hfirst := lt_of_le_of_lt (degree_C_mul_X_pow_le rest.length (bit.toNat : ZMod 2)) hnext
      exact lt_of_le_of_lt (degree_add_le _ _) (max_lt hfirst (ih.trans hnext))

theorem coeff_bitPolynomial_cons (bit : Bool) (rest : List Bool) :
    (bitPolynomial (bit :: rest)).coeff rest.length = bit.toNat := by
  rw [bitPolynomial, coeff_add, coeff_C_mul_X_pow, if_pos rfl,
    coeff_eq_zero_of_degree_lt (degree_bitPolynomial rest), add_zero]

theorem bitPolynomial_inj {a b : List Bool} (hlength : a.length = b.length)
    (h : bitPolynomial a = bitPolynomial b) : a = b := by
  induction a generalizing b with
  | nil => exact (List.eq_nil_of_length_eq_zero hlength.symm).symm
  | cons bit rest ih =>
      cases b with
      | nil => cases hlength
      | cons other later =>
          have hsame : rest.length = later.length := Nat.succ.inj hlength
          have htop : (bit.toNat : ZMod 2) = other.toNat := by
            rw [← coeff_bitPolynomial_cons bit rest, h, hsame, coeff_bitPolynomial_cons]
          have hbit : bit = other := by
            revert htop
            cases bit <;> cases other <;> decide
          subst hbit
          rw [bitPolynomial, bitPolynomial, hsame, add_right_inj] at h
          rw [ih hsame h]

theorem toNat_xor (a b : Bool) : ((a ^^ b).toNat : ZMod 2) = a.toNat + b.toNat := by
  cases a <;> cases b <;> decide

theorem polynomial_singleton (byte : UInt8) :
    Bytes.polynomial [byte] =
      C ((hasBit byte 7).toNat : ZMod 2) * X ^ 7 + C ((hasBit byte 6).toNat : ZMod 2) * X ^ 6 +
      C ((hasBit byte 5).toNat : ZMod 2) * X ^ 5 + C ((hasBit byte 4).toNat : ZMod 2) * X ^ 4 +
      C ((hasBit byte 3).toNat : ZMod 2) * X ^ 3 + C ((hasBit byte 2).toNat : ZMod 2) * X ^ 2 +
      C ((hasBit byte 1).toNat : ZMod 2) * X + C ((hasBit byte 0).toNat : ZMod 2) := by
  simp [Bytes.polynomial, Bytes.bits, bitsOf, bitPolynomial]
  ring

theorem polynomial_xor (a b : UInt8) :
    Bytes.polynomial [a ^^^ b] = Bytes.polynomial [a] + Bytes.polynomial [b] := by
  simp only [polynomial_singleton, hasBit_xor, toNat_xor, C_add]
  ring

theorem polynomial_double (byte : UInt8) :
    Bytes.polynomial [byte <<< 1] =
      X * Bytes.polynomial [byte] - C ((hasBit byte 7).toNat : ZMod 2) * X ^ 8 := by
  simp [polynomial_singleton, hasBit_double]
  ring

theorem polynomial_zero : Bytes.polynomial [0] = 0 := by
  simp [polynomial_singleton, hasBit]

theorem polynomial_injective {a b : UInt8} (h : Bytes.polynomial [a] = Bytes.polynomial [b]) :
    a = b := by
  have hzero : Bytes.polynomial [a ^^^ b] = Bytes.polynomial [0] := by
    rw [polynomial_xor, h, polynomial_zero, CharTwo.add_self_eq_zero]
  have hbits : Bytes.bits [a ^^^ b] = Bytes.bits [0] := bitPolynomial_inj rfl hzero
  apply UInt8.xor_eq_zero_iff.mp
  apply eq_zero_of_bitsOf
  rw [Bytes.bits_cons, Bytes.bits_cons, List.append_cancel_right_eq] at hbits
  rw [hbits]
  decide

/-! ## Division -/

noncomputable def generator : (ZMod 2)[X] := X ^ 8 + X ^ 2 + X + 1

theorem monic_generator : generator.Monic := by
  unfold generator
  monicity!

theorem degree_generator : generator.degree = 8 := by
  unfold generator
  compute_degree!

namespace Checksum

theorem polynomial_low (bit : Bool) :
    Bytes.polynomial [if bit then 0x07 else 0] =
      C (bit.toNat : ZMod 2) * (generator - X ^ 8) := by
  have hseven : bitsOf 0x07 = [false, false, false, false, false, true, true, true] := by decide
  cases bit with
  | false => simp [polynomial_zero]
  | true =>
      simp [Bytes.polynomial, Bytes.bits, hseven, bitPolynomial, generator]
      ring

theorem polynomial_shift (register : UInt8) :
    Bytes.polynomial [shift register] =
      X * Bytes.polynomial [register] + C ((hasBit register 7).toNat : ZMod 2) * generator := by
  have htwo : (2 : (ZMod 2)[X]) = 0 := CharTwo.two_eq_zero
  rw [shift_eq, polynomial_xor, polynomial_double, polynomial_low]
  linear_combination (-C ((hasBit register 7).toNat : ZMod 2) * X ^ 8) * htwo

/-- An entering bit multiplies by `X` and adds its own `X ^ 8`, up to the generator. -/
theorem polynomial_enter (register : UInt8) (bit : Bool) :
    Bytes.polynomial [enter register bit] =
      X * Bytes.polynomial [register] + C (bit.toNat : ZMod 2) * X ^ 8 +
        (C ((hasBit register 7).toNat : ZMod 2) + C (bit.toNat : ZMod 2)) * generator := by
  have htwo : (2 : (ZMod 2)[X]) = 0 := CharTwo.two_eq_zero
  rw [enter_eq, polynomial_xor, polynomial_shift, polynomial_low]
  linear_combination (-C (bit.toNat : ZMod 2) * X ^ 8) * htwo

theorem generator_dvd_foldl_enter (register : UInt8) (bits : List Bool) :
    generator ∣ Bytes.polynomial [register] * X ^ bits.length + bitPolynomial bits * X ^ 8 -
      Bytes.polynomial [bits.foldl enter register] := by
  induction bits generalizing register with
  | nil => simp [bitPolynomial]
  | cons bit rest ih =>
      have hstep := polynomial_enter register bit
      -- the first bit changes the difference by a multiple of the generator
      have hwhole : Bytes.polynomial [register] * X ^ (bit :: rest).length +
            bitPolynomial (bit :: rest) * X ^ 8 -
              Bytes.polynomial [(bit :: rest).foldl enter register] =
          (Bytes.polynomial [enter register bit] * X ^ rest.length + bitPolynomial rest * X ^ 8 -
            Bytes.polynomial [rest.foldl enter (enter register bit)]) -
          generator * ((C ((hasBit register 7).toNat : ZMod 2) + C (bit.toNat : ZMod 2)) *
            X ^ rest.length) := by
        rw [hstep, bitPolynomial, List.foldl_cons, List.length_cons, pow_succ]
        ring
      rw [hwhole]
      exact dvd_sub (ih _) (dvd_mul_right _ _)

end Checksum

theorem generator_dvd_checksum (bytes : Bytes) :
    generator ∣ bytes.polynomial * X ^ 8 - Bytes.polynomial [checksum bytes] := by
  have hrun := Checksum.generator_dvd_foldl_enter 0 bytes.bits
  rwa [polynomial_zero, zero_mul, zero_add, ← Checksum.run_eq_enter] at hrun

theorem remainder_eq_checksum (bytes : Bytes) :
    bytes.polynomial * X ^ 8 %ₘ generator = Bytes.polynomial [checksum bytes] := by
  have hsmall : (Bytes.polynomial [checksum bytes]).degree < generator.degree := by
    rw [degree_generator]
    exact degree_bitPolynomial (Bytes.bits [checksum bytes])
  rw [modByMonic_eq_of_dvd_sub monic_generator (generator_dvd_checksum bytes),
    (modByMonic_eq_self_iff monic_generator).mpr hsmall]

/--
The checksum is the remainder of the message, moved up by its eight places, under division by the
generator.  Two sections are checked as one string, a string with its checksum behind it leaves no
remainder, and exclusive or is kept.
-/
theorem checksum_is_remainder (a b : Bytes) :
    checksumOfTwo a b = checksum (a ++ b) ∧
      (∀ c, checksum a = c ↔
        Bytes.polynomial [c] = a.polynomial * X ^ 8 %ₘ (X ^ 8 + X ^ 2 + X + 1)) ∧
      (∀ c, checksum (a ++ [c]) = 0 ↔ c = checksum a) ∧
      (a.length = b.length → checksum (a.flip b) = checksum a ^^^ checksum b) := by
  refine ⟨checksumOfTwo_eq a b, fun c => ?_, fun c => ?_, checksum_xor⟩
  · change _ ↔ _ = _ %ₘ generator
    rw [remainder_eq_checksum]
    exact ⟨fun h => by rw [h], fun h => (polynomial_injective h).symm⟩
  · rw [checksum_append_eq_zero_iff, eq_comm]

theorem checksum_is_remainder_version :
    let a : Bytes := [0x00, 0x01]
    let b : Bytes := [0x00, 0x05]
    checksumOfTwo a b = checksum (a ++ b) ∧ checksum (a ++ b) = 0x70 ∧
      Bytes.polynomial [0x70] = (a ++ b).polynomial * X ^ 8 %ₘ (X ^ 8 + X ^ 2 + X + 1) ∧
      checksum (a ++ b ++ [0x70]) = 0 ∧
      a.length = b.length ∧ checksum (a.flip b) = checksum a ^^^ checksum b := by
  intro a b
  obtain ⟨hboth, -, -, hxor⟩ := checksum_is_remainder a b
  obtain ⟨-, hremainder, hzero, -⟩ := checksum_is_remainder (a ++ b) []
  have hcheck : checksum (a ++ b) = 0x70 := by decide +kernel
  exact ⟨hboth, hcheck, (hremainder 0x70).mp hcheck, (hzero 0x70).mpr hcheck.symm, rfl, hxor rfl⟩

end Esp3Host
