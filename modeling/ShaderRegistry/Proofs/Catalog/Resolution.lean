import ShaderRegistry.Capability
import ShaderRegistry.Catalog
import ShaderRegistry.Proofs.Table.Search

/-! # Resolving targets in the catalogue

What the search of accepted tables gives for the catalogue: every profile is found under
its target, and an answer other than the invalid profile is a profile of the catalogue.
-/

namespace ShaderRegistry.Catalog

theorem dropLast_table : table.dropLast = profiles :=
  List.dropLast_concat

theorem sound_of_mem {profile : Profile} (hprofile : profile ∈ profiles) :
    Table.entryFault? profile = none := by
  have hsound := (Table.fault?_eq_none_iff.mp fault?_table).2.1
  rw [dropLast_table] at hsound
  exact hsound profile hprofile

theorem ascending_profiles : Table.Ascending profiles := by
  have hascending := (Table.fault?_eq_none_iff.mp fault?_table).2.2
  rw [dropLast_table] at hascending
  exact hascending

theorem kind_ne_invalid_of_mem {profile : Profile} (hprofile : profile ∈ profiles) :
    profile.kind ≠ .invalid :=
  (Table.entryFault?_eq_none_iff.mp (sound_of_mem hprofile)).1

theorem isValid_of_mem {profile : Profile} (hprofile : profile ∈ profiles) :
    profile.isValid = true :=
  decide_eq_true (kind_ne_invalid_of_mem hprofile)

theorem name_of_mem {profile : Profile} (hprofile : profile ∈ profiles) :
    profile.name = profile.canonicalName :=
  (Table.entryFault?_eq_none_iff.mp (sound_of_mem hprofile)).2.2

theorem invalid_notMem : Profile.invalid ∉ profiles :=
  fun hinvalid => kind_ne_invalid_of_mem hinvalid rfl

theorem index_eq : index = .ofEntries profiles := by
  rw [index, Table.Index.ofTable, dropLast_table]

/-- Every profile of the catalogue is reached by the search for its target. -/
theorem resolve_of_mem {profile : Profile} (hprofile : profile ∈ profiles) :
    resolve profile.toTarget = profile := by
  rw [resolve, index_eq]
  exact Table.Index.resolve_of_mem ascending_profiles hprofile

theorem resolve_of_forall_ne {target : Target}
    (habsent : ∀ profile ∈ profiles, profile.toTarget ≠ target) : resolve target = .invalid := by
  rw [resolve, index_eq]
  exact Table.Index.resolve_of_forall_ne habsent

/-- A target either has a profile, which is then the answer, or it is answered by the
invalid profile. -/
theorem resolve_cases (target : Target) :
    (resolve target ∈ profiles ∧ (resolve target).toTarget = target) ∨
      resolve target = .invalid := by
  by_cases hlisted : ∃ profile ∈ profiles, profile.toTarget = target
  · obtain ⟨profile, hprofile, rfl⟩ := hlisted
    rw [resolve_of_mem hprofile]
    exact Or.inl ⟨hprofile, rfl⟩
  · apply Or.inr
    apply resolve_of_forall_ne
    intro profile hprofile htarget
    exact hlisted ⟨profile, hprofile, htarget⟩

end ShaderRegistry.Catalog
