import Esp3Host.Proofs.Checksum.Bits

/-!
# Bursts

A burst is a bit error that is not zero and lies within eight consecutive bits.  The register holds
eight bits, so what a burst leaves in it cannot be zero, and no number of intact bits behind the
burst makes it zero again.  Hence a string under a burst never has the same checksum.
-/

namespace Esp3Host

/-- Some bits are flipped, and all of them lie within eight consecutive bits. -/
structure Burst (error : List Bool) : Prop where
  nonzero : true ∈ error
  confined : ∃ start, ∀ i, error[i]? = some true → start ≤ i ∧ i < start + 8

theorem Burst.of_left {first second : List Bool} (h : Burst (first ++ second))
    (hfirst : true ∈ first) : Burst first := by
  obtain ⟨start, hconfined⟩ := h.confined
  refine ⟨hfirst, start, ?_⟩
  intro i hi
  apply hconfined
  obtain ⟨hlt, -⟩ := List.getElem?_eq_some_iff.mp hi
  rw [List.getElem?_append_left hlt, hi]

theorem Burst.of_right {first second : List Bool} (h : Burst (first ++ second))
    (hsecond : true ∈ second) : Burst second := by
  obtain ⟨start, hconfined⟩ := h.confined
  refine ⟨hsecond, start - first.length, ?_⟩
  intro i hi
  have hplace := hconfined (first.length + i)
  rw [List.getElem?_append_right (Nat.le_add_right _ _), Nat.add_sub_cancel_left] at hplace
  have hbounds := hplace hi
  omega

theorem Burst.behind {first second : List Bool} (h : Burst second) (hfirst : true ∉ first) :
    Burst (first ++ second) := by
  obtain ⟨start, hconfined⟩ := h.confined
  refine ⟨List.mem_append_right first h.nonzero, first.length + start, ?_⟩
  intro i hi
  rcases Nat.lt_or_ge i first.length with hlt | hge
  · rw [List.getElem?_append_left hlt] at hi
    exact absurd (List.mem_of_getElem? hi) hfirst
  · rw [List.getElem?_append_right hge] at hi
    have hplace := hconfined _ hi
    omega

namespace Checksum

theorem eq_zero_of_enter_false {register : UInt8} (h : enter register false = 0) :
    register = 0 := by
  rw [enter_eq] at h
  apply eq_zero_of_shift
  simpa using h

theorem eq_zero_of_intact {bits : List Bool} (hintact : true ∉ bits) {register : UInt8}
    (h : bits.foldl enter register = 0) : register = 0 := by
  induction bits generalizing register with
  | nil => exact h
  | cons bit rest ih =>
      rw [List.mem_cons, not_or] at hintact
      obtain ⟨hbit, hrest⟩ := hintact
      have hfirst : enter register bit = 0 := ih hrest h
      cases bit with
      | true => exact absurd rfl hbit
      | false => exact eq_zero_of_enter_false hfirst

/-- Few bits cannot clear the low end of the register: they enter at the top. -/
theorem low_of_foldl_enter {bits : List Bool} {register : UInt8}
    (h : bits.foldl enter register = 0) :
    ∀ i, i + bits.length < 8 → hasBit register i = false := by
  induction bits generalizing register with
  | nil =>
      intro i hi
      have hzero : register = 0 := h
      simp [hzero, hasBit]
  | cons bit rest ih =>
      intro i hi
      rw [List.length_cons] at hi
      have hlater : ∀ j, j + rest.length < 8 → hasBit (enter register bit) j = false := ih h
      have hbottom := hlater 0 (by omega)
      have hnext := hlater (i + 1) (by omega)
      have hentering : ∀ j < 7, hasBit (if bit then 0x80 else 0) j = false := by
        cases bit <;> decide
      -- the shift that brought the bit in dropped none, so it only moved the others up
      rw [enter, hasBit_shift_zero] at hbottom
      rw [enter, shift_of_low hbottom, hasBit_double, hasBit_xor, Nat.add_sub_cancel,
        hentering i (by omega)] at hnext
      simpa [show i + 1 < 8 by omega] using hnext

theorem foldl_enter_ne_zero {error : List Bool} (h : Burst error) : error.foldl enter 0 ≠ 0 := by
  induction error with
  | nil => exact absurd h.nonzero List.not_mem_nil
  | cons bit rest ih =>
      cases bit with
      | false =>
          have hrest : true ∈ rest := by simpa using h.nonzero
          have hcut : Burst ([false] ++ rest) := h
          exact ih (hcut.of_right hrest)
      | true =>
          intro hzero
          obtain ⟨start, hconfined⟩ := h.confined
          have hfirst := hconfined 0 rfl
          have hintact : true ∉ rest.drop 7 := by
            intro hmem
            obtain ⟨i, hi⟩ := List.mem_iff_getElem?.mp hmem
            rw [List.getElem?_drop] at hi
            have hplace := hconfined (7 + i + 1) hi
            omega
          have hwindow : (rest.take 7).foldl enter (enter 0 true) = 0 := by
            apply eq_zero_of_intact hintact
            rw [← List.foldl_append, List.take_append_drop]
            exact hzero
          have hlow := low_of_foldl_enter hwindow 0 (by
            rw [List.length_take]
            omega)
          revert hlow
          decide

end Checksum

theorem checksum_ne_zero_of_burst {error : Bytes} (h : Burst error.bits) : checksum error ≠ 0 := by
  rw [checksum, Checksum.run_eq_enter]
  exact Checksum.foldl_enter_ne_zero h

theorem checksum_flip_ne {bytes error : Bytes} (hlength : bytes.length = error.length)
    (h : Burst error.bits) : checksum (bytes.flip error) ≠ checksum bytes := by
  rw [Ne, checksum_flip_eq_iff hlength]
  exact checksum_ne_zero_of_burst h

end Esp3Host
