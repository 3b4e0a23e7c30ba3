/-! # Bits of unbounded integers

An integer as an endless row of bits in two's complement: a negative number has ones
from some position on. `bit_union` says what joining two rows does to each bit.
-/

namespace ShaderRegistry.Bits

/-- Whether the bit of weight `2 ^ position` is set. -/
def bit (number : Int) (position : Nat) : Bool :=
  match number with
  | .ofNat magnitude => magnitude.testBit position
  | .negSucc complement => !complement.testBit position

/-- The bits of the first number that the second lacks. -/
def without (first second : Nat) : Nat :=
  first ^^^ (first &&& second)

/-- The number whose bits are those set in either number. -/
def union : Int → Int → Int
  | .ofNat first, .ofNat second => .ofNat (first ||| second)
  | .ofNat first, .negSucc second => .negSucc (without second first)
  | .negSucc first, .ofNat second => .negSucc (without first second)
  | .negSucc first, .negSucc second => .negSucc (first &&& second)

theorem testBit_without (first second position : Nat) :
    (without first second).testBit position =
      (first.testBit position && !second.testBit position) := by
  simp only [without, Nat.testBit_xor, Nat.testBit_and]
  cases first.testBit position <;> cases second.testBit position <;> rfl

theorem bit_union (first second : Int) (position : Nat) :
    bit (union first second) position = (bit first position || bit second position) := by
  cases first <;> cases second <;>
    simp [union, bit, testBit_without, Bool.or_comm]

/-- A union is negative exactly when one of its parts is. -/
theorem union_neg_iff {first second : Int} :
    union first second < 0 ↔ first < 0 ∨ second < 0 := by
  have hnat (magnitude : Nat) : ¬Int.ofNat magnitude < 0 := Int.not_lt.mpr (Int.natCast_nonneg _)
  have hneg (complement : Nat) : Int.negSucc complement < 0 := Int.negSucc_lt_zero _
  cases first <;> cases second <;> simp only [union, hnat, hneg, or_true, true_or, or_self]

end ShaderRegistry.Bits
