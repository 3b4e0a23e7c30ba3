import ShaderRegistry.Profile

/-! # What a profile is capable of

The versions of the intermediate language and of its validator that a profile calls for,
and the features that its shader model brings.
-/

namespace ShaderRegistry

/-- Something was asked of a profile or a request that it has no answer to. -/
inductive Violation where
  /-- The profile does not compile to DXIL. -/
  | notDxilTarget (profile : Profile)
  /-- A request for the detail of a profile names none. -/
  | noProfile
  deriving DecidableEq

def Violation.message : Violation → String
  | .notDxilTarget profile => "invalid shader model: " ++ profile.name
  | .noProfile => ""

namespace Profile

def isValid (profile : Profile) : Bool :=
  profile.kind ≠ .invalid

/-- Whether the profile compiles to DXIL. Shader models before 6 do not, and an offline
minor only does in a library. -/
def isDxilTarget (profile : Profile) : Bool :=
  profile.isValid && profile.major = 6 &&
    match profile.minor with
    | .numeric minor => 0 ≤ minor ∧ minor ≤ Minor.highest
    | .offline => profile.kind = .library

/-- The version of DXIL that the profile compiles to. An offline library is linked again
before it runs and gets the highest version. -/
def dxilVersion (profile : Profile) : Except Violation Version :=
  if profile.isDxilTarget then
    match profile.minor with
    | .numeric minor => .ok ⟨1, minor⟩
    | .offline => .ok ⟨1, Minor.highest⟩
  else .error (.notDxilTarget profile)

/-- The least version of the validator that accepts the compiled profile. An offline
library is never validated on its own, which is written as version 0.0. -/
def minValidatorVersion (profile : Profile) : Except Violation Version :=
  if profile.isDxilTarget then
    match profile.minor with
    | .numeric minor => .ok ⟨1, minor⟩
    | .offline => .ok ⟨0, 0⟩
  else .error (.notDxilTarget profile)

/-- Whether the shader model of the profile is at least this version. -/
def isAtLeast (profile : Profile) (version : Version) : Bool :=
  version ≤ profile.version

/-- Whether a shader of this kind may use derivatives under the profile. -/
def allowsDerivatives (profile : Profile) : Kind → Bool
  | .pixel | .library | .node => true
  | .compute | .amplification | .mesh => profile.isAtLeast ⟨6, 6⟩
  | _ => false

def supportsUavs (profile : Profile) : Bool :=
  profile.uavRegisters ≠ .limited 0

theorem isAtLeast_iff {profile : Profile} {version : Version} :
    profile.isAtLeast version = true ↔
      version.major < profile.major ∨
        version.major = profile.major ∧ version.minor ≤ profile.minor.code := by
  simp [isAtLeast, Target.version, Version.le_iff]

theorem isAtLeast_mono {profile : Profile} {older newer : Version} (hle : older ≤ newer)
    (hnewer : profile.isAtLeast newer = true) : profile.isAtLeast older = true := by
  simp only [isAtLeast, decide_eq_true_eq] at *
  exact Version.le_trans hle hnewer

end Profile

end ShaderRegistry
