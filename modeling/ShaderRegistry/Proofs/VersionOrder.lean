import ShaderRegistry.Capability
import ShaderRegistry.Lookup

/-! # The order of shader model versions

The offline minor is meant to rank above every number. Versions are compared by the code of
the minor, though, which is a number as well. So the comparison keeps to the intended order
except for an offline profile and a minor above the code, which the profile fails to reach.
-/

namespace ShaderRegistry

/-- The minor is at least this number. The offline minor is above all numbers. -/
def Minor.Reaches (threshold : Int) : Minor → Prop
  | numeric number => threshold ≤ number
  | offline => True

/-- The intended order of versions: by the major number, and then by the minor. -/
def Profile.Reaches (profile : Profile) (version : Version) : Prop :=
  version.major < profile.major ∨
    version.major = profile.major ∧ profile.minor.Reaches version.minor

/-- Codes compare like minors up to the code of the offline minor. -/
theorem Minor.le_code_iff {minor : Minor} {threshold : Int} :
    threshold ≤ minor.code ↔
      minor.Reaches threshold ∧ ¬(minor = .offline ∧ offlineCode < threshold) := by
  cases minor with
  | numeric number => simp [code, Reaches]
  | offline => simp [code, Reaches]

namespace Profile

/-- A profile is told to be at least a version exactly when it is, unless the profile is
offline, has the major number of the version, and is compared with a minor above the code. -/
theorem isAtLeast_iff_reaches (profile : Profile) (version : Version) :
    profile.isAtLeast version = true ↔
      profile.Reaches version ∧ ¬(profile.minor = .offline ∧
        version.major = profile.major ∧ Minor.offlineCode < version.minor) := by
  rw [isAtLeast_iff, Minor.le_code_iff]
  unfold Reaches
  constructor
  · rintro (hmajor | ⟨hmajor, hminor, hcode⟩)
    · refine ⟨Or.inl hmajor, ?_⟩
      rintro ⟨-, hsame, -⟩
      exact absurd hsame (Int.ne_of_lt hmajor)
    · refine ⟨Or.inr ⟨hmajor, hminor⟩, ?_⟩
      rintro ⟨hoffline, -, habove⟩
      exact hcode ⟨hoffline, habove⟩
  · rintro ⟨hmajor | ⟨hmajor, hminor⟩, hcode⟩
    · exact Or.inl hmajor
    · refine Or.inr ⟨hmajor, hminor, ?_⟩
      rintro ⟨hoffline, habove⟩
      exact hcode ⟨hoffline, hmajor, habove⟩

/-- The offline library is above minor 16 of its own shader model and not told to be. -/
theorem offlineLibrary_not_isAtLeast_sixteen :
    (Catalog.lookup "lib_6_x").Reaches ⟨6, 16⟩ ∧
      (Catalog.lookup "lib_6_x").isAtLeast ⟨6, 16⟩ = false := by
  have hmajor : (Catalog.lookup "lib_6_x").major = 6 := by decide +kernel
  have hminor : (Catalog.lookup "lib_6_x").minor = .offline := by decide +kernel
  refine ⟨Or.inr ⟨hmajor.symm, ?_⟩, by decide +kernel⟩
  rw [hminor]
  trivial

end Profile

end ShaderRegistry
