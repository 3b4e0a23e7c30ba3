import Mathlib

/-! # The text of integers

An integer is written with digits and perhaps a minus sign in front. Its text therefore
keeps clear of the characters that part a name, and determines the integer. Integers of any
size have their text here, with no limit on the number of digits.
-/

namespace ShaderRegistry.Text

theorem isDigit_of_mem_repr {number : Nat} {char : Char} (hmem : char ∈ number.repr.toList) :
    char.isDigit = true := by
  rw [Nat.toList_repr] at hmem
  exact Nat.isDigit_of_mem_toDigits (by decide) (by decide) hmem

theorem eq_minus_or_isDigit_of_mem_toString {number : Int} {char : Char}
    (hmem : char ∈ (toString number).toList) : char = '-' ∨ char.isDigit = true := by
  rw [Int.toString_eq_repr, Int.repr_eq_if] at hmem
  split at hmem
  next => exact Or.inr (isDigit_of_mem_repr hmem)
  next =>
    rw [String.toList_append] at hmem
    rcases List.mem_append.mp hmem with hsign | hdigit
    · exact Or.inl (List.mem_singleton.mp hsign)
    · exact Or.inr (isDigit_of_mem_repr hdigit)

/-- No character but a minus sign and the digits ever stands in the text of an integer. -/
theorem notMem_toString {char : Char} (hminus : char ≠ '-') (hdigit : char.isDigit = false)
    (number : Int) : char ∉ (toString number).toList := by
  intro hmem
  rcases eq_minus_or_isDigit_of_mem_toString hmem with rfl | htrue
  · exact hminus rfl
  · rw [hdigit] at htrue
    exact Bool.noConfusion htrue

theorem toString_injective {first second : Int} (hsame : toString first = toString second) :
    first = second := by
  rw [Int.toString_eq_repr, Int.toString_eq_repr] at hsame
  exact Int.repr_injective hsame

theorem toInt?_toString (number : Int) : (toString number).toInt? = some number :=
  Int.toInt?_repr number

/-- Up to nine the text of a number is a single digit. -/
theorem toList_toString_of_lt {number : Nat} (hdigit : number < 10) :
    (toString (number : Int)).toList = [number.digitChar] := by
  have htext : toString (number : Int) = number.repr := rfl
  rw [htext, Nat.toList_repr, Nat.toDigits_of_lt_base hdigit]

end ShaderRegistry.Text
