import ShaderRegistry.Config
import ShaderRegistry.Text.Line

/-! # Reports

The texts that answer a configuration: a table of profiles, a table of kinds, or the
detail of one profile. The decimal text of an integer is taken as total: a limit on the
number of digits, which a runtime may be configured to have, is not modelled.
-/

namespace ShaderRegistry

/-- A row of the table of profiles. A profile that does not compile to DXIL has neither
version. -/
structure Summary where
  profile : Profile
  dxil : Option Version
  validator : Option Version
  deriving DecidableEq

def Profile.summary (profile : Profile) : Except Violation Summary :=
  if profile.isDxilTarget then do
    let dxil ← profile.dxilVersion
    let validator ← profile.minValidatorVersion
    return { profile, dxil := some dxil, validator := some validator }
  else .ok { profile, dxil := none, validator := none }

/-- The summaries of all profiles, or of those of one kind. -/
def Catalog.summaries (kindFilter : Option Kind) : Except Violation (List Summary) :=
  let listed := match kindFilter with
    | none => profiles
    | some kind => profilesOf kind
  listed.mapM Profile.summary

namespace Report

def dxilText : Option Version → String
  | none => "-"
  | some version => version.text

/-- Version 0.0 stands for a profile that is never validated. -/
def validatorText : Option Version → String
  | none => "-"
  | some version => if version = ⟨0, 0⟩ then "none" else version.text

def yesNo (answer : Bool) : String :=
  if answer then "yes" else "no"

/-- The length of the longest name. -/
def nameWidth (summaries : List Summary) : Nat :=
  summaries.foldr (fun summary width => max summary.profile.name.length width) 0

def profileRow (nameWidth : Nat) (summary : Summary) : String :=
  let profile := summary.profile
  "  " ++ Text.padRight nameWidth profile.name ++
    "  in " ++ Text.padRight 3 (toString profile.inputRegisters) ++
    " out " ++ Text.padRight 3 (toString profile.outputRegisters) ++
    " uav " ++ Text.padRight 10 profile.uavRegisters.text ++
    " dxil " ++ Text.padRight 4 (dxilText summary.dxil) ++
    " val " ++ validatorText summary.validator

def profileTable (summaries : List Summary) : String :=
  Text.ofLines <|
    [toString summaries.length ++ " shader models:", ""] ++
      summaries.map fun summary => Text.trimEnd (profileRow (nameWidth summaries) summary)

def kindRow (kind : Kind) : String :=
  "  " ++ Text.padLeft 2 (toString kind.ordinal) ++
    "  " ++ Text.padRight 14 kind.shortName ++
    " " ++ Text.padRight 14 (kind.fullName?.getD "-") ++
    " " ++ toString (Catalog.profilesOf kind).length ++ " profiles"

def kindTable : String :=
  Text.ofLines (["Shader kinds:", ""] ++ Kind.all.map kindRow)

/-- The lines on the versions of DXIL and of the validator. -/
def versionLines (profile : Profile) : Except Violation (List String) :=
  if profile.isDxilTarget then do
    let dxil ← profile.dxilVersion
    let validator ← profile.minValidatorVersion
    return ["  DXIL version:      " ++ dxil.text,
      "  Validator version: " ++ validatorText (some validator)]
  else .ok ["  DXIL version:      n/a (pre-DXIL profile)"]

def headline (profile : Profile) : String :=
  let remark := if profile.minor = .offline then ", offline linking only" else ""
  profile.name ++ " (" ++ profile.kind.label ++ " shader model " ++ toString profile.major ++ "." ++
    profile.minor.text ++ remark ++ ")"

/-- Everything there is to say about one profile. -/
def detail (profile : Profile) : Except Violation String := do
  let versions ← versionLines profile
  return Text.ofLines <|
    [headline profile,
      "  Input registers:   " ++ toString profile.inputRegisters,
      "  Output registers:  " ++ toString profile.outputRegisters,
      "  UAV registers:     " ++ profile.uavRegisters.text,
      "  Typed UAVs:        " ++ yesNo profile.typedUavs] ++
    versions ++
    ["  Derivatives:       " ++ yesNo (profile.allowsDerivatives profile.kind)]

end Report

/-- The text that answers a configuration. -/
def Config.report (config : Config) : Except Violation String :=
  match config.command with
  | .listProfiles => Report.profileTable <$> Catalog.summaries config.kindFilter
  | .listKinds => .ok Report.kindTable
  | .info =>
    match config.infoProfile with
    | some profile => Report.detail profile
    | none => .error .noProfile

end ShaderRegistry
