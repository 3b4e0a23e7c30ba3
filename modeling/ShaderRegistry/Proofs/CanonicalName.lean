import ShaderRegistry.Proofs.Text.Splitting
import ShaderRegistry.Target

/-! # Canonical names determine their targets

The underscores of a canonical name are its separators, because neither the short name of
a stage nor a number has one. Cutting the name at them gives the parts of the target back,
whatever the numbers are.
-/

namespace ShaderRegistry

namespace Kind

theorem shortName_ne_nil (kind : Kind) : kind.shortName.toList ≠ [] := by
  cases kind <;> simp [shortName]

theorem isLower_of_mem_shortName (kind : Kind) :
    ∀ char ∈ kind.shortName.toList, char.isLower = true := by
  cases kind <;> simp [shortName]

theorem isLower_of_fullName? {kind : Kind} {name : String} (hfull : kind.fullName? = some name) :
    ∀ char ∈ name.toList, char.isLower = true := by
  cases kind <;> cases hfull <;> simp

theorem underscore_notMem_shortName (kind : Kind) : '_' ∉ kind.shortName.toList := by
  intro hmem
  exact absurd (isLower_of_mem_shortName kind '_' hmem) (by decide)

end Kind

theorem Minor.text_injective {first second : Minor} (hsame : first.text = second.text) :
    first = second := by
  have hletter : ∀ number : Int, toString number ≠ "x" := by
    intro number htext
    apply Text.notMem_toString (by decide : 'x' ≠ '-') rfl number
    rw [htext]
    decide
  cases first with
  | numeric number =>
      cases second with
      | numeric other => exact congrArg Minor.numeric (Text.toString_injective hsame)
      | offline => exact absurd hsame (hletter number)
  | offline =>
      cases second with
      | numeric other => exact absurd hsame.symm (hletter other)
      | offline => rfl

namespace Target

theorem toList_canonicalName (target : Target) :
    target.canonicalName.toList =
      target.kind.shortName.toList ++
        '_' :: ((toString target.major).toList ++ '_' :: target.minor.text.toList) := by
  simp [canonicalName]

/-- Cutting at the first two underscores recovers stage, major and minor version. -/
theorem canonicalName_injective {first second : Target}
    (hsame : first.canonicalName = second.canonicalName) : first = second := by
  have hlists := congrArg String.toList hsame
  rw [toList_canonicalName, toList_canonicalName] at hlists
  obtain ⟨hkind, hversion⟩ := Text.append_separator_inj
    (Kind.underscore_notMem_shortName _) (Kind.underscore_notMem_shortName _) hlists
  have hunderscore := Text.notMem_toString (by decide : '_' ≠ '-') rfl
  obtain ⟨hmajor, hminor⟩ := Text.append_separator_inj
    (hunderscore first.major) (hunderscore second.major) hversion
  have hkinds := Kind.shortName_injective (String.toList_inj.mp hkind)
  have hmajors := Text.toString_injective (String.toList_inj.mp hmajor)
  have hminors := Minor.text_injective (String.toList_inj.mp hminor)
  cases first
  cases second
  cases hkinds
  cases hmajors
  cases hminors
  rfl

end Target

end ShaderRegistry
