import ShaderRegistry.Proofs.CompiledVersions
import ShaderRegistry.Proofs.Succession

/-! # Agreement of the versions of a profile

The offline minor counts as 15 in comparisons, as the highest minor in the version of DXIL,
and as no version at all for the validator. Up to the highest minor these agree: the minor of
DXIL is the code of the minor cut off there, which decides every comparison up to that point
and does not fall from a profile to one that covers it.
-/

namespace ShaderRegistry

namespace Minor

theorem le_compiled_iff {minor : Minor} {threshold : Int} (hthreshold : threshold ≤ highest) :
    threshold ≤ minor.compiled ↔ threshold ≤ minor.code := by
  rw [compiled, Int.le_min]
  exact and_iff_left hthreshold

theorem compiled_mono {older newer : Minor} (hcode : older.code ≤ newer.code) :
    older.compiled ≤ newer.compiled :=
  min_le_min_right highest hcode

end Minor

namespace Profile

variable {profile : Profile}

/-- What the versions of DXIL and of the validator say of a profile and of each other. The
version of the validator falls behind for the offline minor alone, and the minor of DXIL is
the last one up to the highest that the profile reaches. -/
structure VersionsAgree (profile : Profile) (dxil validator : Version) : Prop where
  dxil_major : dxil.major = 1
  dxil_minor_nonneg : 0 ≤ dxil.minor
  dxil_minor_le : dxil.minor ≤ 8
  validator_le : validator ≤ dxil
  validator_eq_iff : validator = dxil ↔ ∃ number, profile.minor = .numeric number
  isAtLeast_iff : ∀ number ≤ 8, profile.isAtLeast ⟨6, number⟩ = true ↔ number ≤ dxil.minor

theorem isAtLeast_six_iff (htarget : profile.isDxilTarget = true) {number : Int}
    (hnumber : number ≤ Minor.highest) :
    profile.isAtLeast ⟨6, number⟩ = true ↔ number ≤ profile.minor.compiled := by
  have hmajor := (isDxilTarget_iff.mp htarget).2.1
  rw [isAtLeast_iff, hmajor, Minor.le_compiled_iff hnumber]
  simp

theorem versionsAgree_of_isDxilTarget (htarget : profile.isDxilTarget = true) :
    profile.VersionsAgree ⟨1, profile.minor.compiled⟩ profile.minor.validated := by
  have hcompared : ∀ number ≤ 8, profile.isAtLeast ⟨6, number⟩ = true ↔
      number ≤ profile.minor.compiled := fun number => isAtLeast_six_iff htarget
  rcases minor_of_isDxilTarget htarget with ⟨number, hnumeric, hlow, hhigh⟩ | ⟨hoffline, -⟩
  · rw [hnumeric, Minor.compiled_numeric hhigh] at hcompared ⊢
    exact ⟨rfl, hlow, hhigh, Version.le_refl _, by simp [hnumeric, Minor.validated], hcompared⟩
  · rw [hoffline] at hcompared ⊢
    exact ⟨rfl, by decide, by decide, by decide, by simp [hoffline, Minor.validated], hcompared⟩

theorem Covers.compiled_le {older newer : Profile} (hcovers : newer.Covers older)
    (holder : older.isDxilTarget = true) (hnewer : newer.isDxilTarget = true) :
    older.minor.compiled ≤ newer.minor.compiled := by
  have hversion := Version.le_iff.mp (covers_iff_version_le.mp hcovers)
  have holderMajor := (isDxilTarget_iff.mp holder).2.1
  have hnewerMajor := (isDxilTarget_iff.mp hnewer).2.1
  apply Minor.compiled_mono
  simp only [Target.version, holderMajor, hnewerMajor] at hversion
  exact (hversion.resolve_left (Int.lt_irrefl 6)).2

/-- A profile either has both versions, which then agree with each other and with the order
of versions, or it is refused both under its name. A profile that covers another has no lower
version of DXIL. -/
theorem derived_versions_agree (profile : Profile) :
    (profile.isDxilTarget = true → ∃ dxil validator : Version,
        profile.dxilVersion = .ok dxil ∧ profile.minValidatorVersion = .ok validator ∧
          profile.VersionsAgree dxil validator) ∧
      (profile.isDxilTarget = false →
        profile.RefusesVersions ("invalid shader model: " ++ profile.name)) ∧
      ∀ newer : Profile, profile.isDxilTarget = true → newer.isDxilTarget = true →
        newer.Covers profile → ∃ dxil newerDxil : Version, profile.dxilVersion = .ok dxil ∧
          newer.dxilVersion = .ok newerDxil ∧ dxil ≤ newerDxil := by
  refine ⟨?_, refusesVersions_of_not_isDxilTarget, ?_⟩
  · intro htarget
    obtain ⟨hdxil, hvalidator⟩ := versions_of_isDxilTarget htarget
    exact ⟨_, _, hdxil, hvalidator, versionsAgree_of_isDxilTarget htarget⟩
  · intro newer htarget hnewer hcovers
    have hminor := hcovers.compiled_le htarget hnewer
    exact ⟨_, _, (versions_of_isDxilTarget htarget).1, (versions_of_isDxilTarget hnewer).1,
      Or.inr ⟨rfl, hminor⟩⟩

/-- A profile that no catalogue lists and that has the highest numeric minor. -/
def unlistedProfile : Profile :=
  { Profile.invalid with toTarget := ⟨.node, 6, .numeric 8⟩, name := "node_6_8" }

open Table (offlineLibrary) in
/-- The offline library is above the highest minor in the order of versions but not in DXIL,
and a library with a number above the code is refused. -/
theorem versions_of_unlisted_and_offline :
    (unlistedProfile.isDxilTarget = true ∧ ∃ dxil validator : Version,
        unlistedProfile.dxilVersion = .ok dxil ∧
          unlistedProfile.minValidatorVersion = .ok validator ∧
          unlistedProfile.VersionsAgree dxil validator) ∧
      (sixteenthLibrary.isDxilTarget = false ∧
        sixteenthLibrary.RefusesVersions ("invalid shader model: " ++ sixteenthLibrary.name)) ∧
      offlineLibrary.isDxilTarget = true ∧ offlineLibrary.Covers unlistedProfile ∧
        ∃ dxil offlineDxil : Version, unlistedProfile.dxilVersion = .ok dxil ∧
          offlineLibrary.dxilVersion = .ok offlineDxil ∧ dxil ≤ offlineDxil := by
  have hunlisted : unlistedProfile.isDxilTarget = true := by decide
  have hsixteenth : sixteenthLibrary.isDxilTarget = false := by decide
  have hoffline : offlineLibrary.isDxilTarget = true := by decide
  have hcovers : offlineLibrary.Covers unlistedProfile := covers_iff_version_le.mpr (by decide)
  obtain ⟨hversions, -, hcovered⟩ := derived_versions_agree unlistedProfile
  exact ⟨⟨hunlisted, hversions hunlisted⟩,
    ⟨hsixteenth, (derived_versions_agree sixteenthLibrary).2.1 hsixteenth⟩,
    hoffline, hcovers, hcovered _ hunlisted hoffline hcovers⟩

end Profile

end ShaderRegistry
