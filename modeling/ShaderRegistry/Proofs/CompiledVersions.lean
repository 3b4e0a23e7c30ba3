import ShaderRegistry.Proofs.Catalog.Specification
import ShaderRegistry.Proofs.Catalog.Lookup

/-! # The versions that a profile compiles to

A profile of shader model 6 compiles to the version of its minor, and no other profile
compiles at all. So the last character of a profile name tells the versions, and whatever
names no such profile is refused both of them.
-/

namespace ShaderRegistry

theorem Minor.IsWithin.mono {low high lower higher : Int} {minor : Minor}
    (hwithin : minor.IsWithin low high) (hlow : lower ≤ low) (hhigh : high ≤ higher) :
    minor.IsWithin lower higher := by
  cases minor with
  | numeric number => exact ⟨Int.le_trans hlow hwithin.1, Int.le_trans hwithin.2 hhigh⟩
  | offline => exact hwithin

/-- The minor of the version of DXIL to which a minor compiles. -/
def Minor.compiled (minor : Minor) : Int :=
  min minor.code highest

/-- The version of the validator that a minor needs at least. -/
def Minor.validated : Minor → Version
  | numeric number => ⟨1, number⟩
  | offline => ⟨0, 0⟩

theorem Minor.compiled_numeric {number : Int} (hnumber : number ≤ highest) :
    (numeric number).compiled = number :=
  min_eq_left hnumber

namespace Profile

variable {profile : Profile}

theorem isDxilTarget_iff :
    profile.isDxilTarget = true ↔
      profile.kind ≠ .invalid ∧ profile.major = 6 ∧
        (profile.minor.IsWithin 0 Minor.highest ∨
          profile.minor = .offline ∧ profile.kind = .library) := by
  unfold isDxilTarget isValid
  cases profile.minor with
  | numeric number => simp [Minor.IsWithin, and_assoc]
  | offline => simp [Minor.IsWithin, and_assoc]

theorem minor_of_isDxilTarget (htarget : profile.isDxilTarget = true) :
    (∃ number, profile.minor = .numeric number ∧ 0 ≤ number ∧ number ≤ Minor.highest) ∨
      profile.minor = .offline ∧ profile.kind = .library := by
  obtain ⟨-, -, hminor⟩ := isDxilTarget_iff.mp htarget
  cases hcase : profile.minor with
  | numeric number =>
      rw [hcase] at hminor
      have hwithin : 0 ≤ number ∧ number ≤ Minor.highest := hminor.resolve_right (by simp)
      exact Or.inl ⟨number, rfl, hwithin⟩
  | offline =>
      rw [hcase] at hminor
      exact Or.inr ⟨rfl, (hminor.resolve_left id).2⟩

/-- Neither version is told, and both are refused with this message. -/
def RefusesVersions (profile : Profile) (message : String) : Prop :=
  ∃ violation : Violation, profile.dxilVersion = .error violation ∧
    profile.minValidatorVersion = .error violation ∧ violation.message = message

theorem refusesVersions_of_not_isDxilTarget (hother : profile.isDxilTarget = false) :
    profile.RefusesVersions ("invalid shader model: " ++ profile.name) := by
  refine ⟨.notDxilTarget profile, ?_, ?_, rfl⟩
  · simp [dxilVersion, hother]
  · simp [minValidatorVersion, hother]

theorem versions_of_numeric {number : Int} (htarget : profile.isDxilTarget = true)
    (hminor : profile.minor = .numeric number) :
    profile.dxilVersion = .ok ⟨1, number⟩ ∧ profile.minValidatorVersion = .ok ⟨1, number⟩ := by
  simp [dxilVersion, minValidatorVersion, htarget, hminor]

theorem versions_of_offline (htarget : profile.isDxilTarget = true)
    (hminor : profile.minor = .offline) :
    profile.dxilVersion = .ok ⟨1, 8⟩ ∧ profile.minValidatorVersion = .ok ⟨0, 0⟩ := by
  simp [dxilVersion, minValidatorVersion, htarget, hminor, Minor.highest]

theorem versions_of_isDxilTarget (htarget : profile.isDxilTarget = true) :
    profile.dxilVersion = .ok ⟨1, profile.minor.compiled⟩ ∧
      profile.minValidatorVersion = .ok profile.minor.validated := by
  rcases minor_of_isDxilTarget htarget with ⟨number, hnumeric, -, hhigh⟩ | ⟨hoffline, -⟩
  · rw [hnumeric, Minor.compiled_numeric hhigh]
    exact versions_of_numeric htarget hnumeric
  · rw [hoffline]
    exact versions_of_offline htarget hoffline

end Profile

/-- What the rules leave of shader model 6 are the minors that compile. -/
theorem Target.IsSpecified.minor_of_six {target : Target} (hspecified : target.IsSpecified)
    (hmajor : target.major = 6) :
    target.minor.IsWithin 0 Minor.highest ∨
      target.minor = .offline ∧ target.kind = .library := by
  unfold Target.IsSpecified at hspecified
  rcases hspecified with ⟨-, ⟨hearlier, -⟩ | ⟨-, hminor⟩⟩ | ⟨-, ⟨hearlier, -⟩ | ⟨-, hminor⟩⟩ |
    ⟨hkind, -, hminor | hoffline⟩ | ⟨-, -, hminor⟩
  · omega
  · exact Or.inl hminor
  · omega
  · exact Or.inl hminor
  · exact Or.inl (hminor.mono (by decide) (Int.le_refl _))
  · exact Or.inr ⟨hoffline, hkind⟩
  · exact Or.inl (hminor.mono (by decide) (Int.le_refl _))

/-- The last character of a profile name is all there is of the minor. -/
theorem ProfileName.getLast?_of_target? {name : String} {target : Target}
    (hread : target? name = some target) :
    ∃ final, name.toList.getLast? = some final ∧ target.minor.text.toList = [final] := by
  obtain ⟨-, major, minor, hname, hspells⟩ := of_target? hread
  refine ⟨minor, ?_, hspells.toList_minor⟩
  simp [hname]

namespace Catalog

theorem isDxilTarget_iff_major {profile : Profile} (hprofile : profile ∈ profiles) :
    profile.isDxilTarget = true ↔ profile.major = 6 := by
  rw [Profile.isDxilTarget_iff]
  constructor
  · intro htarget
    exact htarget.2.1
  · intro hmajor
    have hspecified := (isSpecified_of_mem profile hprofile).1
    exact ⟨kind_ne_invalid_of_mem hprofile, hmajor, hspecified.minor_of_six hmajor⟩

theorem major_of_mem {profile : Profile} (hprofile : profile ∈ profiles) :
    profile.major = 4 ∨ profile.major = 5 ∨ profile.major = 6 := by
  have hmajor := (version_mem_of_isSpecified (isSpecified_of_mem profile hprofile).1).1
  simpa using hmajor

theorem isDxilTarget_lookup_iff {name : String} :
    (lookup name).isDxilTarget = true ↔
      ∃ profile ∈ profiles, profile.name = name ∧ profile.major = 6 := by
  constructor
  · intro htarget
    obtain ⟨hkind, hmajor, -⟩ := Profile.isDxilTarget_iff.mp htarget
    have hvalid : (lookup name).isValid = true := decide_eq_true hkind
    exact ⟨lookup name, (mem_of_isValid_lookup hvalid).1, (name_lookup hvalid).1, hmajor⟩
  · rintro ⟨profile, hprofile, rfl, hmajor⟩
    rw [lookup_name_of_mem hprofile]
    exact (isDxilTarget_iff_major hprofile).mpr hmajor

/-- The versions of a profile of shader model 6, told from the last character of its name. -/
theorem versions_of_isDxilTarget_lookup {name : String}
    (htarget : (lookup name).isDxilTarget = true) :
    (name = "lib_6_x" ∧ (lookup name).dxilVersion = .ok ⟨1, 8⟩ ∧
        (lookup name).minValidatorVersion = .ok ⟨0, 0⟩) ∨
      name ≠ "lib_6_x" ∧ ∃ digit < 10, name.toList.getLast? = some (Nat.digitChar digit) ∧
        (lookup name).dxilVersion = .ok ⟨1, digit⟩ ∧
          (lookup name).minValidatorVersion = .ok ⟨1, digit⟩ := by
  obtain ⟨hkind, hmajor, -⟩ := Profile.isDxilTarget_iff.mp htarget
  have hvalid : (lookup name).isValid = true := decide_eq_true hkind
  obtain ⟨final, hfinal, htext⟩ := ProfileName.getLast?_of_target? (mem_of_isValid_lookup hvalid).2
  rcases Profile.minor_of_isDxilTarget htarget with
    ⟨number, hnumeric, hlow, hhigh⟩ | ⟨hoffline, hlibrary⟩
  · rw [hnumeric] at htext
    obtain ⟨digit, rfl⟩ := Int.eq_ofNat_of_zero_le hlow
    have hdigit : digit < 10 := by
      have hlimit : (digit : Int) ≤ 8 := hhigh
      omega
    have hchar : [digit.digitChar] = [final] :=
      (Text.toList_toString_of_lt hdigit).symm.trans htext
    cases hchar
    refine Or.inr ⟨?_, digit, hdigit, hfinal, Profile.versions_of_numeric htarget hnumeric⟩
    rintro rfl
    have hletter : digit.digitChar = 'x' := by simpa using hfinal.symm
    have hisDigit := Nat.isDigit_digitChar (n := digit)
    rw [hletter, decide_eq_true hdigit] at hisDigit
    exact absurd hisDigit (by decide)
  · have hname := (name_lookup hvalid).2
    rw [Target.canonicalName, hlibrary, hmajor, hoffline] at hname
    exact Or.inl ⟨hname.symm, Profile.versions_of_offline htarget hoffline⟩

/-- A name has a profile that compiles exactly when it names one of shader model 6. Its
versions are then told by its last character, with those of the offline library apart. A
name of an earlier shader model is refused under its own name, and every other text under
the name of the invalid profile. -/
theorem versions_of_name (name : String) :
    ((lookup name).isDxilTarget = true ↔
        ∃ profile ∈ profiles, profile.name = name ∧ profile.major = 6) ∧
      ((lookup name).isDxilTarget = true →
        (name = "lib_6_x" ∧ (lookup name).dxilVersion = .ok ⟨1, 8⟩ ∧
            (lookup name).minValidatorVersion = .ok ⟨0, 0⟩) ∨
          name ≠ "lib_6_x" ∧ ∃ digit < 10, name.toList.getLast? = some (Nat.digitChar digit) ∧
            (lookup name).dxilVersion = .ok ⟨1, digit⟩ ∧
              (lookup name).minValidatorVersion = .ok ⟨1, digit⟩) ∧
      (∀ profile ∈ profiles, profile.name = name → profile.major ≠ 6 →
        (profile.major = 4 ∨ profile.major = 5) ∧
          (lookup name).RefusesVersions ("invalid shader model: " ++ name)) ∧
      ((∀ profile ∈ profiles, profile.name ≠ name) →
        (lookup name).RefusesVersions "invalid shader model: invalid") := by
  refine ⟨isDxilTarget_lookup_iff, versions_of_isDxilTarget_lookup, ?_, ?_⟩
  · intro profile hprofile hname hmajor
    have hearlier := major_of_mem hprofile
    refine ⟨by omega, ?_⟩
    subst hname
    rw [lookup_name_of_mem hprofile]
    apply Profile.refusesVersions_of_not_isDxilTarget
    rw [Bool.eq_false_iff, Ne, isDxilTarget_iff_major hprofile]
    exact hmajor
  · intro habsent
    rw [lookup_of_forall_ne habsent]
    exact Profile.refusesVersions_of_not_isDxilTarget rfl

end Catalog

end ShaderRegistry
