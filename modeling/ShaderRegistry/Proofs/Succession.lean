import ShaderRegistry.Capability
import ShaderRegistry.Proofs.PackedKey

/-! # Newer profiles

Which of two profiles is the newer one is told by their keys and by the versions that they are
at least. For profiles of one stage whose numbers fit the key the two orders agree, and what a
shader may do under a profile it may do under any newer one.
-/

namespace ShaderRegistry

/-- A version is told by the versions up to it. -/
theorem Version.le_iff_forall_le {older newer : Version} :
    older ≤ newer ↔ ∀ version : Version, version ≤ older → version ≤ newer := by
  constructor
  · intro hle version hversion
    exact le_trans hversion hle
  · intro hall
    exact hall older (le_refl older)

/-- Within one stage the key is a numeral of the version in base 256. -/
theorem Target.key_le_iff_version_le {older newer : Target} (hkind : older.kind = newer.kind)
    (holder : older.FitsBytes) (hnewer : newer.FitsBytes) :
    older.key ≤ newer.key ↔ older.version ≤ newer.version := by
  rw [key_eq_of_fitsBytes holder, key_eq_of_fitsBytes hnewer, hkind, Version.le_iff]
  obtain ⟨_, _, _, _⟩ := holder
  obtain ⟨_, _, _, _⟩ := hnewer
  simp only [version]
  omega

namespace Profile

variable {older newer : Profile}

/-- The newer profile is at least every version that the older one is at least. -/
def Covers (newer older : Profile) : Prop :=
  ∀ version : Version, older.isAtLeast version = true → newer.isAtLeast version = true

theorem covers_iff_version_le : newer.Covers older ↔ older.version ≤ newer.version := by
  rw [Version.le_iff_forall_le]
  simp only [Covers, isAtLeast, decide_eq_true_eq]

/-- Some kinds always have derivatives, and some have them from version 6.6 on. -/
theorem allowsDerivatives_iff {profile : Profile} {kind : Kind} :
    profile.allowsDerivatives kind = true ↔
      kind ∈ [.pixel, .library, .node] ∨
        kind ∈ [.compute, .amplification, .mesh] ∧ profile.isAtLeast ⟨6, 6⟩ = true := by
  cases kind <;> simp [allowsDerivatives]

theorem Covers.allowsDerivatives (hcovers : newer.Covers older) {kind : Kind}
    (hallowed : older.allowsDerivatives kind = true) : newer.allowsDerivatives kind = true := by
  rw [allowsDerivatives_iff] at hallowed ⊢
  rcases hallowed with halways | ⟨hlater, hversion⟩
  · exact Or.inl halways
  · exact Or.inr ⟨hlater, hcovers _ hversion⟩

/-- Profiles of one stage whose numbers fit the key are ordered by their keys as they are by
the versions that they are at least. Derivatives are not lost on the way up. -/
theorem key_le_iff_covers (hkind : older.kind = newer.kind) (holder : older.FitsBytes)
    (hnewer : newer.FitsBytes) :
    (older.key ≤ newer.key ↔ newer.Covers older) ∧
      (newer.Covers older → ∀ kind : Kind,
        older.allowsDerivatives kind = true → newer.allowsDerivatives kind = true) := by
  constructor
  · rw [covers_iff_version_le, Target.key_le_iff_version_le hkind holder hnewer]
  · intro hcovers kind hallowed
    exact hcovers.allowsDerivatives hallowed

open Table (offlineLibrary)

/-- A library with a number above the code of the offline minor. -/
def sixteenthLibrary : Profile :=
  { Profile.invalid with toTarget := ⟨.library, 6, .numeric 16⟩, name := "lib_6_16" }

/-- The code of the offline minor is below 16 in both orders. -/
theorem sixteenthLibrary_covers_offlineLibrary :
    offlineLibrary.kind = sixteenthLibrary.kind ∧ offlineLibrary.FitsBytes ∧
      sixteenthLibrary.FitsBytes ∧ offlineLibrary.key ≤ sixteenthLibrary.key ∧
      sixteenthLibrary.Covers offlineLibrary ∧ ¬offlineLibrary.Covers sixteenthLibrary ∧
      sixteenthLibrary.allowsDerivatives .mesh = true := by
  have hkind : offlineLibrary.kind = sixteenthLibrary.kind := rfl
  have hoffline : offlineLibrary.FitsBytes := by decide
  have hnumbered : sixteenthLibrary.FitsBytes := by decide
  have hkey : offlineLibrary.key ≤ sixteenthLibrary.key := by decide +kernel
  have hstrict : ¬sixteenthLibrary.key ≤ offlineLibrary.key := by decide +kernel
  obtain ⟨horder, hderivatives⟩ := key_le_iff_covers hkind hoffline hnumbered
  have hcovers := horder.mp hkey
  refine ⟨hkind, hoffline, hnumbered, hkey, hcovers, ?_, hderivatives hcovers .mesh (by decide)⟩
  exact (key_le_iff_covers hkind.symm hnumbered hoffline).1.not.mp hstrict

end Profile

end ShaderRegistry
