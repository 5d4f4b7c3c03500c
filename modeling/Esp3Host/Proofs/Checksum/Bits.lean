import Esp3Host.Checksum

/-!
# The checksum bit by bit

A shift of the register is linear in exclusive or and takes no register but zero to zero.  A byte is
therefore absorbed as if its bits entered one after the other, the most significant one first, and
the checksum of two strings under exclusive or is the exclusive or of their checksums.
-/

namespace Esp3Host

/-! ## Bits -/

@[simp] theorem hasBit_xor (a b : UInt8) (i : Nat) :
    hasBit (a ^^^ b) i = (hasBit a i ^^ hasBit b i) := by
  simp [hasBit, UInt8.toNat_xor, Nat.testBit_xor]

theorem hasBit_double (byte : UInt8) (i : Nat) :
    hasBit (byte <<< 1) i = (decide (0 < i ∧ i < 8) && hasBit byte (i - 1)) := by
  have hshift : (byte <<< 1).toNat = byte.toNat <<< 1 % 2 ^ 8 := UInt8.toNat_shiftLeft byte 1
  simp only [hasBit]
  rw [hshift, Nat.testBit_mod_two_pow, Nat.testBit_shiftLeft]
  by_cases hlow : 0 < i <;> by_cases hhigh : i < 8 <;> simp [hlow, hhigh] <;> omega

theorem eq_zero_of_hasBit {byte : UInt8} (h : ∀ i < 8, hasBit byte i = false) : byte = 0 := by
  apply UInt8.toNat_inj.mp
  apply Nat.eq_of_testBit_eq
  intro i
  rcases Nat.lt_or_ge i 8 with hlt | hge
  · rw [UInt8.toNat_zero, Nat.zero_testBit]
    exact h i hlt
  · have hsmall : byte.toNat < 2 ^ i :=
      Nat.lt_of_lt_of_le byte.toNat_lt (Nat.pow_le_pow_right (by omega) hge)
    rw [UInt8.toNat_zero, Nat.zero_testBit]
    exact Nat.testBit_lt_two_pow hsmall

def bitsOf (byte : UInt8) : List Bool := [7, 6, 5, 4, 3, 2, 1, 0].map (hasBit byte)

theorem eq_zero_of_bitsOf {byte : UInt8} (h : true ∉ bitsOf byte) : byte = 0 := by
  apply eq_zero_of_hasBit
  intro i hi
  have hmem : i ∈ [7, 6, 5, 4, 3, 2, 1, 0] := by
    simp only [List.mem_cons, List.not_mem_nil, or_false]
    omega
  cases hbit : hasBit byte i with
  | false => rfl
  | true => exact absurd (List.mem_map.mpr ⟨i, hmem, hbit⟩) h

/-- The bits of a byte string in the order in which they are sent. -/
def Bytes.bits (bytes : Bytes) : List Bool := bytes.flatMap bitsOf

@[simp] theorem Bytes.bits_cons (byte : UInt8) (rest : Bytes) :
    Bytes.bits (byte :: rest) = bitsOf byte ++ Bytes.bits rest := rfl

@[simp] theorem Bytes.bits_append (a b : Bytes) : (a ++ b).bits = a.bits ++ b.bits :=
  List.flatMap_append

def Bytes.flip (bytes error : Bytes) : Bytes := List.zipWith (· ^^^ ·) bytes error

@[simp] theorem Bytes.length_flip (bytes error : Bytes) :
    (bytes.flip error).length = min bytes.length error.length :=
  List.length_zipWith

theorem Bytes.flip_append {a error : Bytes} (h : a.length = error.length) (b later : Bytes) :
    (a ++ b).flip (error ++ later) = a.flip error ++ b.flip later :=
  List.zipWith_append h

theorem Bytes.flip_of_intact {bytes error : Bytes} (hlength : bytes.length = error.length)
    (h : true ∉ error.bits) : bytes.flip error = bytes := by
  induction bytes generalizing error with
  | nil => rfl
  | cons byte rest ih =>
      cases error with
      | nil => cases hlength
      | cons first later =>
          rw [bits_cons, List.mem_append, not_or] at h
          have hzero := eq_zero_of_bitsOf h.1
          have hrest := ih (Nat.succ.inj hlength) h.2
          simp only [flip] at hrest
          simp [flip, hzero, hrest]

namespace Checksum

/-! ## One shift -/

theorem shift_eq (register : UInt8) :
    shift register = register <<< 1 ^^^ if hasBit register 7 then 0x07 else 0 := by
  unfold shift
  cases hasBit register 7 <;> simp

theorem shift_xor (a b : UInt8) : shift (a ^^^ b) = shift a ^^^ shift b := by
  have hgenerator : ∀ p q : Bool, (if p ^^ q then (0x07 : UInt8) else 0) =
      (if p then 0x07 else 0) ^^^ if q then 0x07 else 0 := by decide
  rw [shift_eq, shift_eq a, shift_eq b, hasBit_xor, hgenerator, UInt8.shiftLeft_xor]
  ac_rfl

theorem hasBit_shift_zero (register : UInt8) : hasBit (shift register) 0 = hasBit register 7 := by
  rw [shift_eq, hasBit_xor, hasBit_double]
  cases hasBit register 7 <;> rfl

theorem shift_of_low {register : UInt8} (h : hasBit register 7 = false) :
    shift register = register <<< 1 := by
  rw [shift, if_neg (by simp [h])]

theorem eq_zero_of_shift {register : UInt8} (h : shift register = 0) : register = 0 := by
  have htop : hasBit register 7 = false := by
    rw [← hasBit_shift_zero, h]
    rfl
  rw [shift_of_low htop] at h
  apply eq_zero_of_hasBit
  intro i hi
  rcases Nat.lt_or_ge i 7 with hlt | hge
  · have hnext := hasBit_double register (i + 1)
    rw [h, Nat.add_sub_cancel, decide_eq_true (by omega), Bool.true_and] at hnext
    rw [← hnext]
    simp [hasBit]
  · cases (by omega : i = 7)
    exact htop

/-! ## One byte -/

/-- A bit of the message enters at the top. -/
def enter (register : UInt8) (bit : Bool) : UInt8 := shift (register ^^^ if bit then 0x80 else 0)

theorem enter_eq (register : UInt8) (bit : Bool) :
    enter register bit = shift register ^^^ if bit then 0x07 else 0 := by
  rw [enter, shift_xor]
  cases bit <;> rfl

theorem shift_xor_eq_enter (register byte : UInt8) :
    shift (register ^^^ byte) = enter register (hasBit byte 7) ^^^ byte <<< 1 := by
  rw [shift_xor, enter_eq, shift_eq byte]
  ac_rfl

theorem absorb_eq_enter (register byte : UInt8) :
    absorb register byte = (bitsOf byte).foldl enter register := by
  have hgone : byte <<< 1 <<< 1 <<< 1 <<< 1 <<< 1 <<< 1 <<< 1 <<< 1 = 0 := by
    apply UInt8.toNat_inj.mp
    simp only [UInt8.toNat_shiftLeft, Nat.shiftLeft_eq]
    simp
    omega
  simp [absorb, shift_xor_eq_enter, hgone, hasBit_double, bitsOf]

theorem run_eq_enter (register : UInt8) (bytes : Bytes) :
    run register bytes = bytes.bits.foldl enter register := by
  induction bytes generalizing register with
  | nil => rfl
  | cons byte rest ih =>
      rw [Bytes.bits_cons, List.foldl_append, ← absorb_eq_enter]
      exact ih (absorb register byte)

/-! ## Linearity -/

theorem absorb_xor (a b x y : UInt8) : absorb (a ^^^ b) (x ^^^ y) = absorb a x ^^^ absorb b y := by
  have hinputs : a ^^^ b ^^^ (x ^^^ y) = a ^^^ x ^^^ (b ^^^ y) := by ac_rfl
  simp only [absorb, hinputs, shift_xor]

theorem run_xor (a b : UInt8) {first second : Bytes} (h : first.length = second.length) :
    run (a ^^^ b) (first.flip second) = run a first ^^^ run b second := by
  induction first generalizing a b second with
  | nil =>
      cases second with
      | nil => rfl
      | cons byte rest => cases h
  | cons x first ih =>
      cases second with
      | nil => cases h
      | cons y second =>
          have hrest := ih (absorb a x) (absorb b y) (Nat.succ.inj h)
          rw [← absorb_xor] at hrest
          exact hrest

theorem absorb_eq_zero_iff {register byte : UInt8} :
    absorb register byte = 0 ↔ register = byte := by
  constructor
  · intro h
    have hzero : register ^^^ byte = 0 := by
      unfold absorb at h
      exact eq_zero_of_shift (eq_zero_of_shift (eq_zero_of_shift (eq_zero_of_shift
        (eq_zero_of_shift (eq_zero_of_shift (eq_zero_of_shift (eq_zero_of_shift h)))))))
    exact UInt8.xor_eq_zero_iff.mp hzero
  · rintro rfl
    rw [absorb, UInt8.xor_self]
    rfl

end Checksum

theorem checksum_xor {first second : Bytes} (h : first.length = second.length) :
    checksum (first.flip second) = checksum first ^^^ checksum second := by
  have hrun := Checksum.run_xor 0 0 h
  rwa [UInt8.xor_self] at hrun

theorem checksum_flip_eq_iff {bytes error : Bytes} (h : bytes.length = error.length) :
    checksum (bytes.flip error) = checksum bytes ↔ checksum error = 0 := by
  rw [checksum_xor h]
  constructor
  · intro hsame
    exact (UInt8.xor_right_inj (checksum bytes)).mp (hsame.trans UInt8.xor_zero.symm)
  · intro hzero
    rw [hzero, UInt8.xor_zero]

theorem checksum_append_eq_zero_iff {bytes : Bytes} {check : UInt8} :
    checksum (bytes ++ [check]) = 0 ↔ checksum bytes = check := by
  rw [checksum, Checksum.run_append]
  exact Checksum.absorb_eq_zero_iff

end Esp3Host
