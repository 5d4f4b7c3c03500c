import Esp3Host.Proofs.Checksum.Remainder

/-!
# Parity

The generator has an even number of terms, so division by it keeps the parity of the number of set
bits: both sides have the same value at one.  An odd number of flipped bits therefore changes the
checksum, wherever they are and however long the string is.
-/

namespace Esp3Host

open Polynomial

theorem eval_one_bitPolynomial (bits : List Bool) :
    (bitPolynomial bits).eval 1 = bits.count true := by
  induction bits with
  | nil => simp [bitPolynomial]
  | cons bit rest ih =>
      rw [bitPolynomial, eval_add, ih]
      cases bit <;> simp [add_comm]

theorem eval_one_generator : generator.eval 1 = 0 := by
  simp [generator]
  decide

theorem even_checksum_iff (bytes : Bytes) :
    Even ((bitsOf (checksum bytes)).count true) ↔ Even (bytes.bits.count true) := by
  obtain ⟨quotient, hquotient⟩ := generator_dvd_checksum bytes
  have hone := congrArg (eval 1) hquotient
  rw [eval_mul, eval_one_generator, zero_mul, eval_sub, eval_mul, eval_pow, eval_X, one_pow,
    mul_one, Bytes.polynomial, Bytes.polynomial, eval_one_bitPolynomial, eval_one_bitPolynomial,
    sub_eq_zero, Bytes.bits_cons] at hone
  have hnone : Bytes.bits [] = [] := rfl
  rw [hnone, List.append_nil] at hone
  rw [← ZMod.natCast_eq_zero_iff_even, ← ZMod.natCast_eq_zero_iff_even, hone]

theorem checksum_ne_zero_of_odd {error : Bytes} (h : Odd (error.bits.count true)) :
    checksum error ≠ 0 := by
  intro hzero
  have heven := even_checksum_iff error
  rw [hzero] at heven
  exact Nat.not_even_iff_odd.mpr h (heven.mp (by decide))

theorem checksum_flip_ne_of_odd {bytes error : Bytes} (hlength : bytes.length = error.length)
    (h : Odd (error.bits.count true)) : checksum (bytes.flip error) ≠ checksum bytes := by
  rw [Ne, checksum_flip_eq_iff hlength]
  exact checksum_ne_zero_of_odd h

end Esp3Host
