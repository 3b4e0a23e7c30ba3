import ShaderRegistry.Lookup
import ShaderRegistry.Proofs.Catalog.Resolution
import ShaderRegistry.Proofs.ProfileName

/-! # Looking up names in the catalogue

The names that are found are those of the catalogue and no others. So it makes no
difference whether a profile is asked for by its target or by the canonical name of that
target, although reading the name and searching the key have nothing in common.
-/

namespace ShaderRegistry.Catalog

/-- Each name in the catalogue is read as the target of its profile. -/
theorem target?_name : ∀ profile ∈ profiles,
    ProfileName.target? profile.name = some profile.toTarget := by
  decide +kernel

theorem lookup_name_of_mem {profile : Profile} (hprofile : profile ∈ profiles) :
    lookup profile.name = profile := by
  rw [lookup, target?_name profile hprofile]
  exact resolve_of_mem hprofile

/-- An answer other than the invalid profile is that of a target read from the name. -/
theorem lookup_cases (name : String) :
    (lookup name ∈ profiles ∧ ProfileName.target? name = some (lookup name).toTarget) ∨
      lookup name = .invalid := by
  unfold lookup
  split
  next target hread =>
    rcases resolve_cases target with ⟨hmem, htarget⟩ | hinvalid
    · rw [htarget]
      exact Or.inl ⟨hmem, hread⟩
    · exact Or.inr hinvalid
  next => exact Or.inr rfl

theorem mem_of_isValid_lookup {name : String} (hvalid : (lookup name).isValid = true) :
    lookup name ∈ profiles ∧ ProfileName.target? name = some (lookup name).toTarget := by
  rcases lookup_cases name with hlisted | hinvalid
  · exact hlisted
  · rw [hinvalid] at hvalid
    exact absurd hvalid (by decide)

theorem lookup_eq_invalid {name : String} (hinvalid : (lookup name).isValid ≠ true) :
    lookup name = .invalid := by
  rcases lookup_cases name with ⟨hmem, -⟩ | hanswer
  · exact absurd (isValid_of_mem hmem) hinvalid
  · exact hanswer

theorem name_lookup {name : String} (hvalid : (lookup name).isValid = true) :
    (lookup name).name = name ∧ (lookup name).canonicalName = name := by
  obtain ⟨hmem, hread⟩ := mem_of_isValid_lookup hvalid
  have hcanonical := ProfileName.canonicalName_of_target? hread
  exact ⟨(name_of_mem hmem).trans hcanonical, hcanonical⟩

theorem lookup_of_forall_ne {name : String} (habsent : ∀ profile ∈ profiles, profile.name ≠ name) :
    lookup name = .invalid := by
  apply lookup_eq_invalid
  intro hvalid
  exact habsent _ (mem_of_isValid_lookup hvalid).1 (name_lookup hvalid).1

theorem countP_name_le_one (name : String) :
    profiles.countP (fun profile => profile.name = name) ≤ 1 := by
  refine Nat.le_trans ?_ (ascending_profiles.countP_target_le_one (lookup name).toTarget)
  apply List.countP_mono_left
  intro profile hprofile hname
  rw [decide_eq_true_iff] at hname ⊢
  rw [← hname, lookup_name_of_mem hprofile]

/-- A name is answered by the one profile that bears it and every other text by the invalid
profile. So a valid answer repeats the name, also as the canonical name of its target, a
text without the form of a name has no valid answer, and neither has a name with more text
before or behind it. -/
theorem lookup_eq_unique_named (name : String) :
    (∀ profile ∈ profiles, profile.name = name → lookup name = profile) ∧
      ((∀ profile ∈ profiles, profile.name ≠ name) → lookup name = .invalid) ∧
      profiles.countP (fun profile => profile.name = name) ≤ 1 ∧
      ((lookup name).isValid = true →
        (lookup name).name = name ∧ (lookup name).canonicalName = name) ∧
      (¬ProfileName.HasForm name.toList → lookup name = .invalid) ∧
      ((lookup name).isValid = true → ∀ front back : String, front ≠ "" ∨ back ≠ "" →
        lookup (front ++ name ++ back) = .invalid) := by
  refine ⟨?_, ?_, countP_name_le_one name, name_lookup, ?_, ?_⟩
  · rintro profile hprofile rfl
    exact lookup_name_of_mem hprofile
  · intro habsent
    apply lookup_eq_invalid
    intro hvalid
    exact habsent _ (mem_of_isValid_lookup hvalid).1 (name_lookup hvalid).1
  · intro hform
    apply lookup_eq_invalid
    intro hvalid
    exact hform (ProfileName.hasForm_of_target? (mem_of_isValid_lookup hvalid).2)
  · intro hvalid front back hmore
    apply lookup_eq_invalid
    intro hlonger
    obtain ⟨hfront, hback⟩ := ProfileName.eq_nil_of_target?_append
      (mem_of_isValid_lookup hvalid).2 (mem_of_isValid_lookup hlonger).2
      (by rw [String.toList_append, String.toList_append])
    rcases hmore with hmore | hmore
    · exact hmore (String.toList_inj.mp hfront)
    · exact hmore (String.toList_inj.mp hback)

/-- Asking for the canonical name of a target is asking for the target, for every stage and
all numbers. -/
theorem lookup_canonicalName (target : Target) :
    lookup target.canonicalName = resolve target := by
  cases hread : ProfileName.target? target.canonicalName with
  | some read =>
      have hsame := Target.canonicalName_injective (ProfileName.canonicalName_of_target? hread)
      rw [lookup, hread, hsame]
  | none =>
      rw [lookup, hread]
      rcases resolve_cases target with ⟨hmem, htarget⟩ | hinvalid
      · -- The profile bears the canonical name of the target, so that it would be read.
        have hlisted := target?_name _ hmem
        rw [name_of_mem hmem, htarget, hread] at hlisted
        cases hlisted
      · exact hinvalid.symm

end ShaderRegistry.Catalog
