import Mathlib.Tactic.Tauto
import ShaderRegistry.Proofs.Catalog.Resolution

/-! # The rules behind the catalogue

Which targets have a profile, and what the profile offers, follows from a few rules on
stages and versions. The search of the catalogue answers by these rules on all targets,
whatever their numbers are.
-/

namespace ShaderRegistry

/-- A numeric minor from `low` up to `high`. -/
def Minor.IsWithin (low high : Int) : Minor → Prop
  | numeric number => low ≤ number ∧ number ≤ high
  | offline => False

instance (low high : Int) : (minor : Minor) → Decidable (minor.IsWithin low high)
  | .numeric number => inferInstanceAs (Decidable (low ≤ number ∧ number ≤ high))
  | .offline => inferInstanceAs (Decidable False)

namespace Target

/-- The targets with a profile. The stages of shader model 4 lack the tessellation of model
5, the library comes with 6.1, and mesh shading comes with 6.5. -/
def IsSpecified (target : Target) : Prop :=
  target.kind ∈ [.pixel, .vertex, .geometry, .compute] ∧
      ((target.major = 4 ∨ target.major = 5) ∧ target.minor.IsWithin 0 1 ∨
        target.major = 6 ∧ target.minor.IsWithin 0 8) ∨
    target.kind ∈ [.hull, .domain] ∧
      (target.major = 5 ∧ target.minor.IsWithin 0 1 ∨
        target.major = 6 ∧ target.minor.IsWithin 0 8) ∨
    target.kind = .library ∧ target.major = 6 ∧
      (target.minor.IsWithin 1 8 ∨ target.minor = .offline) ∨
    target.kind ∈ [.mesh, .amplification] ∧ target.major = 6 ∧ target.minor.IsWithin 5 8

instance (target : Target) : Decidable target.IsSpecified := by
  unfold IsSpecified
  infer_instance

/-- Input and output registers. Shader model 4.0 has fewer of them in two stages. -/
def registers (target : Target) : Int × Int :=
  let isFirst := target.major = 4 ∧ target.minor = .numeric 0
  match target.kind with
  | .pixel => (32, 8)
  | .vertex => if isFirst then (16, 16) else (32, 32)
  | .geometry => if isFirst then (16, 32) else (32, 32)
  | .compute | .mesh | .amplification => (0, 0)
  | _ => (32, 32)

/-- Typed loads from unordered access views, and registers for such views. -/
def uavs (target : Target) : Bool × RegisterCount :=
  if target.major = 4 then (false, .limited 0)
  else if target.major = 5 then (true, .limited 64)
  else (true, .unlimited)

def specifiedProfile (target : Target) : Profile where
  toTarget := target
  name := target.canonicalName
  inputRegisters := target.registers.1
  outputRegisters := target.registers.2
  typedUavs := target.uavs.1
  uavRegisters := target.uavs.2

end Target

namespace Catalog

/-- Every profile of the catalogue obeys the rules. -/
theorem isSpecified_of_mem : ∀ profile ∈ profiles,
    profile.IsSpecified ∧ profile = profile.specifiedProfile := by
  decide +kernel

/-- The minors that some rule admits. -/
def specifiedMinors : List Minor :=
  .offline :: (List.range 9).map fun number : Nat => .numeric number

theorem mem_specifiedMinors {minor : Minor} {low high : Int} (hlow : 0 ≤ low) (hhigh : high ≤ 8)
    (hwithin : minor.IsWithin low high) : minor ∈ specifiedMinors := by
  cases minor with
  | offline => exact List.mem_cons_self
  | numeric number =>
      obtain ⟨habove, hbelow⟩ := hwithin
      apply List.mem_cons_of_mem
      apply List.mem_map.mpr
      have hnonneg : 0 ≤ number := by omega
      refine ⟨number.toNat, List.mem_range.mpr (by omega), ?_⟩
      rw [Int.toNat_of_nonneg hnonneg]

/-- The rules leave only finitely many versions. -/
theorem version_mem_of_isSpecified {target : Target} (hspecified : target.IsSpecified) :
    target.major ∈ ([4, 5, 6] : List Int) ∧ target.minor ∈ specifiedMinors := by
  unfold Target.IsSpecified at hspecified
  constructor
  · have hmajor : target.major = 4 ∨ target.major = 5 ∨ target.major = 6 := by tauto
    simpa using hmajor
  · have hminor : target.minor.IsWithin 0 1 ∨ target.minor.IsWithin 0 8 ∨
        target.minor.IsWithin 1 8 ∨ target.minor.IsWithin 5 8 ∨ target.minor = .offline := by
      tauto
    rcases hminor with hminor | hminor | hminor | hminor | hminor
    · exact mem_specifiedMinors (by decide) (by decide) hminor
    · exact mem_specifiedMinors (by decide) (by decide) hminor
    · exact mem_specifiedMinors (by decide) (by decide) hminor
    · exact mem_specifiedMinors (by decide) (by decide) hminor
    · exact hminor ▸ List.mem_cons_self

/-- Whatever the rules provide is in the catalogue. -/
theorem listed_of_isSpecified {target : Target} (hspecified : target.IsSpecified) :
    ∃ profile ∈ profiles, profile.toTarget = target := by
  -- The rules bound the version, so that finitely many targets remain to be compared.
  have hversions : ∀ kind ∈ Kind.all, ∀ major ∈ ([4, 5, 6] : List Int),
      ∀ minor ∈ specifiedMinors, Target.IsSpecified ⟨kind, major, minor⟩ →
        ∃ profile ∈ profiles, profile.toTarget = ⟨kind, major, minor⟩ := by
    decide +kernel
  obtain ⟨hmajor, hminor⟩ := version_mem_of_isSpecified hspecified
  cases target with
  | mk kind major minor =>
      exact hversions kind (Kind.mem_all kind) major hmajor minor hminor hspecified

/-- The search answers by the rules: a target has a profile exactly when they provide one,
and then the profile is the one that they describe. -/
theorem resolve_eq_specifiedProfile (target : Target) :
    (resolve target ≠ .invalid ↔ target.IsSpecified) ∧
      (resolve target ≠ .invalid → resolve target = target.specifiedProfile) := by
  have hlisted : resolve target ≠ .invalid →
      target.IsSpecified ∧ resolve target = target.specifiedProfile := by
    intro hvalid
    rcases resolve_cases target with ⟨hmem, htarget⟩ | hinvalid
    · have hrules := isSpecified_of_mem _ hmem
      rw [htarget] at hrules
      exact hrules
    · exact absurd hinvalid hvalid
  refine ⟨⟨fun hvalid => (hlisted hvalid).1, ?_⟩, fun hvalid => (hlisted hvalid).2⟩
  intro hspecified hinvalid
  obtain ⟨profile, hprofile, rfl⟩ := listed_of_isSpecified hspecified
  rw [resolve_of_mem hprofile] at hinvalid
  exact invalid_notMem (hinvalid ▸ hprofile)

end Catalog

end ShaderRegistry
