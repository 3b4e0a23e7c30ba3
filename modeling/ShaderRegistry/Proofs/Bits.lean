import Mathlib.Data.Int.Bitwise
import ShaderRegistry.Bits

/-! # Bits under shifts and masks

A number is determined by its bits. A shift moves the bits along, and a mask of ones keeps
the lowest bits only.
-/

namespace ShaderRegistry.Bits

theorem bit_eq_testBit (number : Int) (position : Nat) :
    bit number position = number.testBit position := by
  cases number <;> rfl

theorem bit_lor (first second : Int) (position : Nat) :
    bit (Int.lor first second) position = (bit first position || bit second position) := by
  simp only [bit_eq_testBit, Int.testBit_lor]

theorem bit_land (first second : Int) (position : Nat) :
    bit (Int.land first second) position = (bit first position && bit second position) := by
  simp only [bit_eq_testBit, Int.testBit_land]

/-- Beyond its own length a natural number has zeros where a negative one has ones. -/
theorem bit_ofNat_ne_bit_negSucc (magnitude complement : Nat) :
    bit (.ofNat magnitude) (magnitude + complement) ≠
      bit (.negSucc complement) (magnitude + complement) := by
  have hzero : magnitude.testBit (magnitude + complement) = false :=
    Nat.testBit_lt_two_pow (Nat.lt_of_le_of_lt (by omega) Nat.lt_two_pow_self)
  have hone : complement.testBit (magnitude + complement) = false :=
    Nat.testBit_lt_two_pow (Nat.lt_of_le_of_lt (by omega) Nat.lt_two_pow_self)
  simp [bit, hzero, hone]

theorem eq_of_bit_eq {first second : Int}
    (hbits : ∀ position, bit first position = bit second position) : first = second := by
  cases first with
  | ofNat first =>
      cases second with
      | ofNat second => exact congrArg Int.ofNat (Nat.eq_of_testBit_eq hbits)
      | negSucc second => exact absurd (hbits _) (bit_ofNat_ne_bit_negSucc first second)
  | negSucc first =>
      cases second with
      | ofNat second => exact absurd (hbits _).symm (bit_ofNat_ne_bit_negSucc second first)
      | negSucc second =>
          refine congrArg Int.negSucc (Nat.eq_of_testBit_eq ?_)
          intro position
          simpa [bit] using hbits position

/-- A bit is the parity of what a shift to the right leaves. -/
theorem bit_eq_parity (number : Int) (position : Nat) :
    bit number position = decide ((number >>> position) % 2 = 1) := by
  cases number with
  | ofNat magnitude =>
      rw [Int.ofNat_eq_natCast, ← Int.natCast_shiftRight, Nat.shiftRight_eq_div_pow]
      simp only [← Int.ofNat_eq_natCast, bit, Nat.testBit_eq_decide_div_mod_eq]
      congr 1
      simp only [Int.ofNat_eq_natCast, eq_iff_iff]
      omega
  | negSucc complement =>
      rw [Int.negSucc_shiftRight, Nat.shiftRight_eq_div_pow]
      simp only [bit, Nat.testBit_eq_decide_div_mod_eq, ← decide_not]
      congr 1
      simp only [Int.negSucc_eq, eq_iff_iff]
      omega

theorem bit_shiftRight (number : Int) (shift position : Nat) :
    bit (number >>> shift) position = bit number (shift + position) := by
  rw [bit_eq_parity, bit_eq_parity, Int.shiftRight_add]

theorem bit_shiftLeft_of_le (number : Int) {shift position : Nat} (hshift : shift ≤ position) :
    bit (number <<< shift) position = bit number (position - shift) := by
  rw [bit_eq_parity, bit_eq_parity, Int.shiftLeft_shiftRight_eq_shiftRight_of_le hshift]

/-- A shift to the left moves zeros in. -/
theorem bit_shiftLeft_of_lt (number : Int) {shift position : Nat} (hshift : position < shift) :
    bit (number <<< shift) position = false := by
  rw [bit_eq_parity, Int.shiftLeft_shiftRight_eq_shiftLeft_of_le (Nat.le_of_lt hshift)]
  obtain ⟨less, hless⟩ : ∃ less, shift - position = less + 1 :=
    Nat.exists_eq_succ_of_ne_zero (by omega)
  -- The last of the shifts alone makes the number even.
  rw [hless, Int.shiftLeft_succ']
  simp

/-- The mask `255` keeps the lowest eight bits. -/
theorem bit_land_byte (number : Int) (position : Nat) :
    bit (Int.land number 255) position = (bit number position && decide (position < 8)) := by
  rw [bit_land]
  congr 1
  exact Nat.testBit_two_pow_sub_one 8 position

end ShaderRegistry.Bits
