import ShaderRegistry.Report
import ShaderRegistry.Proofs.CompiledVersions

/-! # Reports

A report asks only those profiles for their versions that have any. So every profile has a
row in the table and a detail, and a list of profiles always has its table.
-/

namespace ShaderRegistry

namespace Profile

variable {profile : Profile}

/-- The row of a profile, with the versions that it has. -/
def row (profile : Profile) : Summary where
  profile := profile
  dxil := profile.dxilVersion.toOption
  validator := profile.minValidatorVersion.toOption

theorem summary_eq_row (profile : Profile) : profile.summary = .ok profile.row := by
  by_cases htarget : profile.isDxilTarget = true
  · obtain ⟨hdxil, hvalidator⟩ := versions_of_isDxilTarget htarget
    rw [summary, if_pos htarget, row, hdxil, hvalidator]
    rfl
  · obtain ⟨violation, hdxil, hvalidator, -⟩ :=
      refusesVersions_of_not_isDxilTarget (Bool.eq_false_of_not_eq_true htarget)
    rw [summary, if_neg htarget, row, hdxil, hvalidator]
    rfl

end Profile

namespace Catalog

theorem mapM_summary (listed : List Profile) :
    listed.mapM Profile.summary = .ok (listed.map Profile.row) := by
  rw [funext Profile.summary_eq_row]
  exact List.mapM_pure

theorem summaries_none : summaries none = .ok (profiles.map Profile.row) :=
  mapM_summary profiles

theorem summaries_some (kind : Kind) :
    summaries (some kind) = .ok ((profilesOf kind).map Profile.row) :=
  mapM_summary (profilesOf kind)

end Catalog

namespace Report

/-- The lines on versions, with those that the profile has. -/
def versionTexts (profile : Profile) : List String :=
  if profile.isDxilTarget then
    ["  DXIL version:      " ++ Version.text ⟨1, profile.minor.compiled⟩,
      "  Validator version: " ++ validatorText (some profile.minor.validated)]
  else ["  DXIL version:      n/a (pre-DXIL profile)"]

/-- The lines on what a profile offers, all of which name a field of it. -/
def resourceTexts (profile : Profile) : List String :=
  ["  Input registers:   " ++ toString profile.inputRegisters,
    "  Output registers:  " ++ toString profile.outputRegisters,
    "  UAV registers:     " ++ profile.uavRegisters.text,
    "  Typed UAVs:        " ++ yesNo profile.typedUavs]

def derivativesText (profile : Profile) : String :=
  "  Derivatives:       " ++ yesNo (profile.allowsDerivatives profile.kind)

theorem versionLines_eq (profile : Profile) :
    versionLines profile = .ok (versionTexts profile) := by
  by_cases htarget : profile.isDxilTarget = true
  · obtain ⟨hdxil, hvalidator⟩ := Profile.versions_of_isDxilTarget htarget
    rw [versionLines, versionTexts, if_pos htarget, if_pos htarget, hdxil, hvalidator]
    rfl
  · rw [versionLines, versionTexts, if_neg htarget, if_neg htarget]

theorem detail_eq (profile : Profile) :
    detail profile =
      .ok (Text.ofLines (headline profile ::
        (resourceTexts profile ++ versionTexts profile ++ [derivativesText profile]))) := by
  rw [detail, versionLines_eq]
  rfl

theorem exists_detail (profile : Profile) : ∃ text, detail profile = .ok text :=
  ⟨_, detail_eq profile⟩

end Report

end ShaderRegistry
