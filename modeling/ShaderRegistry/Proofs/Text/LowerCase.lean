import Mathlib
import ShaderRegistry.Text.LowerCase

/-! # What a lower case tells

Putting a text into lower case replaces each character by one or more others. Of the characters
beyond ASCII nothing is said here but which of them yield letters of ASCII, so that all that
follows holds of every such replacement, also of one that regards the neighbours of a character.
A word of ASCII letters is reached only from the same letters in either case, as long as it has
no k, which is also the lower case of the Kelvin sign.
-/

namespace ShaderRegistry.Text

/-- What a character may become. None vanishes, and the i of the dotted capital I never comes
alone. -/
inductive IsLowerForm : Char → List Char → Prop
  | letter {char : Char} (hletter : char.isAlpha = true) : IsLowerForm char [char.toLower]
  | dottedI : IsLowerForm '\u0130' ['i', '\u0307']
  | kelvin : IsLowerForm '\u212a' ['k']
  | other {char : Char} {form : List Char} (hchar : char.isAlpha = false)
      (hdotted : char ≠ '\u0130') (hkelvin : char ≠ '\u212a') (hnonempty : form ≠ [])
      (hform : ∀ image ∈ form, image.isAlpha = false) : IsLowerForm char form

/-- A function on texts that puts a lower case form in the place of each character. -/
def IsLowering (lowering : List Char → List Char) : Prop :=
  ∀ text, ∃ forms, List.Forall₂ IsLowerForm text forms ∧ lowering text = forms.flatten

/-- The text is the word with each letter in its lower or upper case. -/
def IsCaseVariant (text word : List Char) : Prop :=
  List.Forall₂ (fun char letter => char = letter.toLower ∨ char = letter.toUpper) text word

instance (text word : List Char) : Decidable (IsCaseVariant text word) :=
  inferInstanceAs (Decidable (List.Forall₂ _ text word))

variable {text word : List Char} {forms : List (List Char)}

theorem eq_toLower_or_eq_toUpper (char : Char) : char = char.toLower ∨ char = char.toUpper := by
  by_cases hupper : char.isUpper = true
  · exact Or.inr (Char.toUpper_eq_of_not_isLower (Char.not_isLower_of_isUpper hupper)).symm
  · exact Or.inl (Char.toLower_eq_of_not_isUpper hupper).symm

theorem toLower_eq_of_variant {char letter : Char} (hletter : letter.isLower = true)
    (hvariant : char = letter.toLower ∨ char = letter.toUpper) :
    char.isAlpha = true ∧ char.toLower = letter := by
  have hlower : letter.toLower = letter :=
    Char.toLower_eq_of_not_isUpper (Char.not_isUpper_of_isLower hletter)
  have halpha : letter.isAlpha = true := by simp [Char.isAlpha, hletter]
  rcases hvariant with rfl | rfl
  · exact ⟨by simpa using halpha, by simpa using hlower⟩
  · exact ⟨by simpa using halpha, by simpa using hlower⟩

namespace IsLowerForm

variable {char : Char} {form : List Char}

theorem of_isAlpha (hform : IsLowerForm char form) (halpha : char.isAlpha = true) :
    form = [char.toLower] := by
  cases hform with
  | letter => rfl
  | dottedI => exact absurd halpha (by decide)
  | kelvin => exact absurd halpha (by decide)
  | other hchar => rw [hchar] at halpha; cases halpha

/-- The combining dot is no letter, and the k is excluded. -/
theorem of_isLower (hform : IsLowerForm char form)
    (hletters : ∀ image ∈ form, image.isLower = true) (hkelvin : 'k' ∉ form) :
    form = [char.toLower] := by
  cases hform with
  | letter => rfl
  | dottedI => exact absurd (hletters '\u0307' (by decide)) (by decide)
  | kelvin => exact absurd List.mem_cons_self hkelvin
  | other _ _ _ hnonempty hother =>
      obtain ⟨image, himage⟩ := List.exists_mem_of_ne_nil _ hnonempty
      have halpha : image.isAlpha = true := by simp [Char.isAlpha, hletters image himage]
      rw [hother image himage] at halpha
      cases halpha

end IsLowerForm

theorem isLowerForm_lowerChar (char : Char) : IsLowerForm char (lowerChar char) := by
  unfold lowerChar
  split
  next hdotted => exact hdotted ▸ IsLowerForm.dottedI
  next hdotted =>
    split
    next hkelvin => exact hkelvin ▸ IsLowerForm.kelvin
    next hkelvin =>
      cases halpha : char.isAlpha with
      | true => exact IsLowerForm.letter halpha
      | false =>
          refine IsLowerForm.other halpha hdotted hkelvin (List.cons_ne_nil _ _) ?_
          intro image himage
          rw [List.mem_singleton.mp himage, Char.isAlpha_toLower_eq_isAlpha, halpha]

theorem isLowering_lower : IsLowering lower := by
  intro text
  refine ⟨text.map lowerChar, ?_, List.flatMap_def⟩
  rw [List.forall₂_map_right_iff]
  exact List.forall₂_same.mpr fun char _ => isLowerForm_lowerChar char

/-- Lower case with both small forms of the Greek sigma, of which one stands only at the end. -/
def lowerGreek : List Char → List Char
  | [] => []
  | char :: rest =>
      (if char = '\u03a3' then [if rest = [] then '\u03c2' else '\u03c3'] else lowerChar char) ++
        lowerGreek rest

/-- What stands for a sigma depends on the rest of the text, and still is no letter of ASCII. -/
theorem isLowering_lowerGreek : IsLowering lowerGreek := by
  intro text
  induction text with
  | nil => exact ⟨[], List.Forall₂.nil, rfl⟩
  | cons char rest ih =>
      obtain ⟨forms, hforms, hlower⟩ := ih
      refine ⟨_ :: forms, List.Forall₂.cons ?_ hforms, by rw [lowerGreek, hlower]; rfl⟩
      split
      next hsigma =>
        subst hsigma
        refine IsLowerForm.other (by decide) (by decide) (by decide) (List.cons_ne_nil _ _) ?_
        intro image himage
        rw [List.mem_singleton.mp himage]
        split <;> decide
      next => exact isLowerForm_lowerChar char

namespace IsCaseVariant

theorem iff_getElem :
    IsCaseVariant text word ↔
      text.length = word.length ∧
        ∀ (position : Nat) (htext : position < text.length) (hword : position < word.length),
          text[position] = word[position].toLower ∨ text[position] = word[position].toUpper :=
  List.forall₂_iff_get

theorem refl (word : List Char) : IsCaseVariant word word :=
  List.forall₂_same.mpr fun char _ => eq_toLower_or_eq_toUpper char

theorem isAlpha (hvariant : IsCaseVariant text word)
    (hword : ∀ letter ∈ word, letter.isLower = true) : ∀ char ∈ text, char.isAlpha = true := by
  induction hvariant with
  | nil => simp
  | cons hchar _ ih =>
      obtain ⟨hletter, hrest⟩ := List.forall_mem_cons.mp hword
      exact List.forall_mem_cons.mpr ⟨(toLower_eq_of_variant hletter hchar).1, ih hrest⟩

theorem flatten_eq (hvariant : IsCaseVariant text word)
    (hforms : List.Forall₂ IsLowerForm text forms)
    (hword : ∀ letter ∈ word, letter.isLower = true) : forms.flatten = word := by
  induction hvariant generalizing forms with
  | nil =>
      cases hforms
      rfl
  | cons hchar _ ih =>
      obtain ⟨hletter, hrest⟩ := List.forall_mem_cons.mp hword
      obtain ⟨halpha, hlower⟩ := toLower_eq_of_variant hletter hchar
      cases hforms with
      | cons hform hforms =>
          rw [List.flatten_cons, hform.of_isAlpha halpha, hlower, ih hforms hrest]
          rfl

theorem of_flatten (hforms : List.Forall₂ IsLowerForm text forms)
    (hword : ∀ letter ∈ forms.flatten, letter.isLower = true) (hkelvin : 'k' ∉ forms.flatten) :
    IsCaseVariant text forms.flatten := by
  induction hforms with
  | nil => exact List.Forall₂.nil
  | @cons char form _ _ hform _ ih =>
      rw [List.flatten_cons] at hword hkelvin ⊢
      obtain ⟨hletters, hrest⟩ := List.forall_mem_append.mp hword
      rw [List.mem_append, not_or] at hkelvin
      -- The form is a single letter, so that text and lower case stay in step.
      rw [hform.of_isLower hletters hkelvin.1]
      refine List.Forall₂.cons ?_ (ih hrest hkelvin.2)
      simpa using eq_toLower_or_eq_toUpper char

end IsCaseVariant

namespace IsLowering

variable {lowering : List Char → List Char}

theorem eq_of_isCaseVariant (hlowering : IsLowering lowering)
    (hword : ∀ letter ∈ word, letter.isLower = true) (hvariant : IsCaseVariant text word) :
    lowering text = word := by
  obtain ⟨forms, hforms, hlower⟩ := hlowering text
  rw [hlower, hvariant.flatten_eq hforms hword]

theorem eq_iff_isCaseVariant (hlowering : IsLowering lowering)
    (hword : ∀ letter ∈ word, letter.isLower = true) (hkelvin : 'k' ∉ word) :
    lowering text = word ↔ IsCaseVariant text word := by
  refine ⟨?_, hlowering.eq_of_isCaseVariant hword⟩
  rintro rfl
  obtain ⟨forms, hforms, hlower⟩ := hlowering text
  rw [hlower] at hword hkelvin ⊢
  exact IsCaseVariant.of_flatten hforms hword hkelvin

end IsLowering

/-- Lower case letters of ASCII are their own lower case. -/
theorem lower_eq_self (hlower : ∀ char ∈ text, char.isLower = true) : lower text = text :=
  isLowering_lower.eq_of_isCaseVariant hlower (IsCaseVariant.refl text)

end ShaderRegistry.Text
