import ShaderRegistry.LaunchType
import ShaderRegistry.Proofs.Text.LowerCase

/-! # The names of launch modes

A name asks for a launch mode in whatever case its letters are. That goes for the letters of
ASCII only: no name has a k, and so no character beyond ASCII can stand for a letter.
-/

namespace ShaderRegistry.LaunchType

variable {mode : LaunchType} {word text : List Char}

/-- The launch mode with exactly this name, `invalid` for every other word. -/
def ofExactName (word : List Char) : LaunchType :=
  (modes.find? fun mode => mode.name.toList = word).getD invalid

theorem ofName_eq_ofExactName (text : String) :
    ofName text = ofExactName (Text.lower text.toList) := rfl

theorem isLower_of_mem_name (mode : LaunchType) :
    ∀ letter ∈ mode.name.toList, letter.isLower = true := by
  cases mode <;> simp [name]

theorem kelvin_notMem_name (mode : LaunchType) : 'k' ∉ mode.name.toList := by
  cases mode <;> simp [name]

theorem ofExactName_name (mode : LaunchType) : ofExactName mode.name.toList = mode := by
  cases mode <;> decide

theorem ofExactName_eq_iff (hmode : mode ≠ .invalid) :
    ofExactName word = mode ↔ word = mode.name.toList := by
  constructor
  · intro hnamed
    unfold ofExactName at hnamed
    cases hfound : modes.find? fun mode => mode.name.toList = word with
    | none =>
        rw [hfound] at hnamed
        exact absurd hnamed.symm hmode
    | some found =>
        rw [hfound] at hnamed
        cases hnamed
        have hname := List.find?_some hfound
        exact (of_decide_eq_true hname).symm
  · rintro rfl
    exact ofExactName_name mode

section Lowering

variable {lowering : List Char → List Char} (hlowering : Text.IsLowering lowering)
include hlowering

theorem ofExactName_lowering_eq_iff (hmode : mode ≠ .invalid) :
    ofExactName (lowering text) = mode ↔ Text.IsCaseVariant text mode.name.toList := by
  rw [ofExactName_eq_iff hmode]
  exact hlowering.eq_iff_isCaseVariant mode.isLower_of_mem_name mode.kelvin_notMem_name

theorem ofExactName_lowering_eq_invalid_iff :
    ofExactName (lowering text) = .invalid ↔
      ∀ mode : LaunchType, mode ≠ .invalid → ¬Text.IsCaseVariant text mode.name.toList := by
  constructor
  · intro hinvalid mode hmode hvariant
    rw [(ofExactName_lowering_eq_iff hlowering hmode).mpr hvariant] at hinvalid
    exact hmode hinvalid
  · intro hnone
    by_contra hmode
    exact hnone _ hmode ((ofExactName_lowering_eq_iff hlowering hmode).mp rfl)

/-- Which launch mode is named does not depend on what becomes of the other characters. -/
theorem ofExactName_lowering (text : String) :
    ofExactName (lowering text.toList) = ofName text := by
  rw [ofName_eq_ofExactName]
  by_cases hinvalid : ofExactName (Text.lower text.toList) = .invalid
  · rw [hinvalid, ofExactName_lowering_eq_invalid_iff hlowering]
    exact (ofExactName_lowering_eq_invalid_iff Text.isLowering_lower).mp hinvalid
  · rw [ofExactName_lowering_eq_iff hlowering hinvalid]
    exact (ofExactName_lowering_eq_iff Text.isLowering_lower hinvalid).mp rfl

end Lowering

theorem ofName_of_isCaseVariant (mode : LaunchType) {text : String}
    (hvariant : Text.IsCaseVariant text.toList mode.name.toList) : ofName text = mode := by
  rw [ofName_eq_ofExactName,
    Text.isLowering_lower.eq_of_isCaseVariant mode.isLower_of_mem_name hvariant, ofExactName_name]

theorem ofName_of_not_isAlpha {text : String} {char : Char} (hmem : char ∈ text.toList)
    (hchar : char.isAlpha = false) : ofName text = .invalid := by
  rw [ofName_eq_ofExactName, ofExactName_lowering_eq_invalid_iff Text.isLowering_lower]
  intro mode _ hvariant
  rw [hvariant.isAlpha mode.isLower_of_mem_name char hmem] at hchar
  cases hchar

/-- A text names a launch mode exactly when it has as many characters as the name and each of
them is the letter at its place in lower or upper case. Every other text is invalid, and so are
the word invalid in any case and each text with a character in it that is no letter of ASCII.
Nothing else about lower case matters: any function that puts texts into lower case finds the
same launch mode. -/
theorem ofName_reads_case_variants (text : String) :
    (∀ mode : LaunchType, mode ≠ .invalid →
      (ofName text = mode ↔
        text.length = mode.name.length ∧
          ∀ (position : Nat) (htext : position < text.toList.length)
            (hname : position < mode.name.toList.length),
            text.toList[position] = mode.name.toList[position].toLower ∨
              text.toList[position] = mode.name.toList[position].toUpper)) ∧
    (ofName text = .invalid ↔
      ∀ mode : LaunchType, mode ≠ .invalid →
        ¬Text.IsCaseVariant text.toList mode.name.toList) ∧
    (Text.IsCaseVariant text.toList "invalid".toList → ofName text = .invalid) ∧
    ((∃ char ∈ text.toList, char.isAlpha = false) → ofName text = .invalid) ∧
    ∀ lowering : List Char → List Char, Text.IsLowering lowering →
      ofExactName (lowering text.toList) = ofName text := by
  refine ⟨?_, ofExactName_lowering_eq_invalid_iff Text.isLowering_lower,
    ofName_of_isCaseVariant .invalid, ?_, fun _ hlowering => ofExactName_lowering hlowering text⟩
  · intro mode hmode
    rw [← String.length_toList, ← String.length_toList, ← Text.IsCaseVariant.iff_getElem]
    exact ofExactName_lowering_eq_iff Text.isLowering_lower hmode
  · rintro ⟨char, hmem, hchar⟩
    exact ofName_of_not_isAlpha hmem hchar

/-- Letters of both cases name a mode, but a dotted capital I and a long s stand for no letter.
Nor does it matter which of its forms a sigma takes. -/
theorem ofName_of_lookalikes :
    (LaunchType.thread ≠ .invalid ∧ ofName "tHReaD" = .thread) ∧
    (Text.IsCaseVariant "InVaLiD".toList "invalid".toList ∧ ofName "InVaLiD" = .invalid) ∧
    ((∃ char ∈ "broadcast\u0130ng".toList, char.isAlpha = false) ∧
      ofName "broadcast\u0130ng" = .invalid) ∧
    ((∃ char ∈ "coale\u017fcing".toList, char.isAlpha = false) ∧
      ofName "coale\u017fcing" = .invalid) ∧
    Text.IsLowering Text.lowerGreek ∧
      ofExactName (Text.lowerGreek "THREAD\u03a3".toList) = ofName "THREAD\u03a3" := by
  have hthread : Text.IsCaseVariant "tHReaD".toList LaunchType.thread.name.toList := by decide
  have hinvalid : Text.IsCaseVariant "InVaLiD".toList "invalid".toList := by decide
  have hdotted : ∃ char ∈ "broadcast\u0130ng".toList, char.isAlpha = false :=
    ⟨'\u0130', by simp, by decide⟩
  have hlong : ∃ char ∈ "coale\u017fcing".toList, char.isAlpha = false :=
    ⟨'\u017f', by simp, by decide⟩
  have hmode : LaunchType.thread ≠ .invalid := by decide
  have hlength : "tHReaD".length = LaunchType.thread.name.length := by decide
  obtain ⟨hnamed, -⟩ := ofName_reads_case_variants "tHReaD"
  obtain ⟨-, -, hword, -⟩ := ofName_reads_case_variants "InVaLiD"
  obtain ⟨-, -, -, hdottedWord, -⟩ := ofName_reads_case_variants "broadcast\u0130ng"
  obtain ⟨-, -, -, hlongWord, -⟩ := ofName_reads_case_variants "coale\u017fcing"
  obtain ⟨-, -, -, -, hlowering⟩ := ofName_reads_case_variants "THREAD\u03a3"
  refine ⟨⟨hmode, ?_⟩, ⟨hinvalid, hword hinvalid⟩, ⟨hdotted, hdottedWord hdotted⟩,
    ⟨hlong, hlongWord hlong⟩, Text.isLowering_lowerGreek,
    hlowering _ Text.isLowering_lowerGreek⟩
  exact (hnamed .thread hmode).mpr ⟨hlength, (Text.IsCaseVariant.iff_getElem.mp hthread).2⟩

end ShaderRegistry.LaunchType
