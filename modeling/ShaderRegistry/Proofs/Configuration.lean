import ShaderRegistry.Config
import ShaderRegistry.Proofs.Catalog.Lookup

/-! # What options ask for

Options either ask for one configuration or are refused for one reason, and which of the
two is told by relations that do not follow the checks in their order. Each relation says
of every option whether it matters, so that options with several faults have one refusal.
-/

namespace ShaderRegistry

/-- The kind is a stage with this short or full name. -/
def Kind.IsCalled (kind : Kind) (name : String) : Prop :=
  kind ≠ .invalid ∧ (kind.shortName = name ∨ kind.fullName? = some name)

/-- A short name is the full name of no other kind. -/
theorem Kind.ofFullName_shortName (kind : Kind) :
    ofFullName kind.shortName = kind ∨ ofFullName kind.shortName = .invalid := by
  cases kind <;> decide

theorem namedKind_of_isCalled {kind : Kind} {name : String} (hcalled : kind.IsCalled name) :
    namedKind name = .ok kind := by
  obtain ⟨hstage, rfl | hfull⟩ := hcalled
  -- The full names are searched first, and could hide a short name.
  · rcases kind.ofFullName_shortName with hsame | hnone
    · simp [namedKind, hsame, hstage]
    · simp [namedKind, hnone, hstage]
  · simp [namedKind, Kind.ofFullName_fullName hfull, hstage]

theorem namedKind_of_forall_not {name : String} (hunknown : ∀ kind : Kind, ¬kind.IsCalled name) :
    namedKind name = .error (.unknownKind name) := by
  have hfull : Kind.ofFullName name = .invalid := by
    by_contra hknown
    exact hunknown _ ⟨hknown, Or.inr (Kind.fullName?_ofFullName hknown)⟩
  have hshort : Kind.ofShortName name = .invalid := by
    by_contra hknown
    exact hunknown _ ⟨hknown, Or.inl (Kind.shortName_ofShortName hknown)⟩
  simp [namedKind, hfull, hshort]

theorem namedProfile_of_mem {profile : Profile} (hprofile : profile ∈ Catalog.profiles) :
    namedProfile profile.name = .ok profile := by
  simp [namedProfile, Catalog.lookup_name_of_mem hprofile, Catalog.isValid_of_mem hprofile]

theorem namedProfile_of_forall_ne {name : String}
    (habsent : ∀ profile ∈ Catalog.profiles, profile.name ≠ name) :
    namedProfile name = .error (.invalidProfile name) := by
  rw [namedProfile, Catalog.lookup_of_forall_ne habsent]
  rfl

namespace Options

variable {options : Options}

/-- The configuration that answers options. -/
inductive Asks (options : Options) : Config → Prop
  | allProfiles (hlist : options.listProfiles = true) (hkind : options.kind = none) :
      Asks options { command := .listProfiles }
  | profilesOf {name : String} {kind : Kind} (hlist : options.listProfiles = true)
      (hkind : options.kind = some name) (hcalled : kind.IsCalled name) :
      Asks options { command := .listProfiles, kindFilter := some kind }
  | kinds (hlist : options.listProfiles = false) (hkind : options.kind = none)
      (hkinds : options.listKinds = true) : Asks options { command := .listKinds }
  | profile {profile : Profile} (hlist : options.listProfiles = false)
      (hkind : options.kind = none) (hkinds : options.listKinds = false)
      (hinfo : options.info = some profile.name) (hprofile : profile ∈ Catalog.profiles) :
      Asks options { command := .info, infoProfile := some profile }

/-- The reason for which options are refused. A kind without a list of profiles goes before
everything else that is wrong. -/
inductive IsRefused (options : Options) : Refusal → Prop
  | kindWithoutList {name : String} (hlist : options.listProfiles = false)
      (hkind : options.kind = some name) : IsRefused options .kindWithoutList
  | unknownKind {name : String} (hlist : options.listProfiles = true)
      (hkind : options.kind = some name) (hunknown : ∀ kind : Kind, ¬kind.IsCalled name) :
      IsRefused options (.unknownKind name)
  | invalidProfile {name : String} (hlist : options.listProfiles = false)
      (hkind : options.kind = none) (hkinds : options.listKinds = false)
      (hinfo : options.info = some name)
      (habsent : ∀ profile ∈ Catalog.profiles, profile.name ≠ name) :
      IsRefused options (.invalidProfile name)
  | missingCommand (hlist : options.listProfiles = false) (hkind : options.kind = none)
      (hkinds : options.listKinds = false) (hinfo : options.info = none) :
      IsRefused options .missingCommand

theorem asks_or_isRefused (options : Options) :
    (∃ config, options.Asks config) ∨ ∃ refusal, options.IsRefused refusal := by
  cases hlist : options.listProfiles with
  | true =>
      cases hkind : options.kind with
      | none => exact Or.inl ⟨_, .allProfiles hlist hkind⟩
      | some name =>
          by_cases hknown : ∃ kind : Kind, kind.IsCalled name
          · obtain ⟨kind, hcalled⟩ := hknown
            exact Or.inl ⟨_, .profilesOf hlist hkind hcalled⟩
          · exact Or.inr ⟨_, .unknownKind hlist hkind (not_exists.mp hknown)⟩
  | false =>
      cases hkind : options.kind with
      | some name => exact Or.inr ⟨_, .kindWithoutList hlist hkind⟩
      | none =>
          cases hkinds : options.listKinds with
          | true => exact Or.inl ⟨_, .kinds hlist hkind hkinds⟩
          | false =>
              cases hinfo : options.info with
              | none => exact Or.inr ⟨_, .missingCommand hlist hkind hkinds hinfo⟩
              | some name =>
                  by_cases hlisted : ∃ profile ∈ Catalog.profiles, profile.name = name
                  · obtain ⟨profile, hprofile, rfl⟩ := hlisted
                    exact Or.inl ⟨_, .profile hlist hkind hkinds hinfo hprofile⟩
                  · refine Or.inr ⟨_, .invalidProfile hlist hkind hkinds hinfo ?_⟩
                    exact fun profile hprofile hname => hlisted ⟨profile, hprofile, hname⟩

theorem Asks.validate {config : Config} (hasks : options.Asks config) :
    options.validate = .ok config := by
  cases hasks with
  | allProfiles hlist hkind => simp [Options.validate, hlist, hkind]
  | profilesOf hlist hkind hcalled =>
      simp only [Options.validate, hlist, hkind, namedKind_of_isCalled hcalled]
      rfl
  | kinds hlist hkind hkinds => simp [Options.validate, hlist, hkind, hkinds]
  | profile hlist hkind hkinds hinfo hprofile =>
      simp only [Options.validate, hlist, hkind, hkinds, hinfo, namedProfile_of_mem hprofile]
      rfl

theorem IsRefused.validate {refusal : Refusal} (hrefused : options.IsRefused refusal) :
    options.validate = .error refusal := by
  cases hrefused with
  | kindWithoutList hlist hkind => simp [Options.validate, hlist, hkind]
  | unknownKind hlist hkind hunknown =>
      simp only [Options.validate, hlist, hkind, namedKind_of_forall_not hunknown]
      rfl
  | invalidProfile hlist hkind hkinds hinfo habsent =>
      simp only [Options.validate, hlist, hkind, hkinds, hinfo, namedProfile_of_forall_ne habsent]
      rfl
  | missingCommand hlist hkind hkinds hinfo => simp [Options.validate, hlist, hkind, hkinds, hinfo]

theorem validate_eq_ok_iff {config : Config} :
    options.validate = .ok config ↔ options.Asks config := by
  refine ⟨?_, Asks.validate⟩
  intro hvalid
  rcases options.asks_or_isRefused with ⟨asked, hasks⟩ | ⟨refusal, hrefused⟩
  · have hsame := hasks.validate.symm.trans hvalid
    cases hsame
    exact hasks
  · rw [hrefused.validate] at hvalid
    cases hvalid

theorem validate_eq_error_iff {refusal : Refusal} :
    options.validate = .error refusal ↔ options.IsRefused refusal := by
  refine ⟨?_, IsRefused.validate⟩
  intro hinvalid
  rcases options.asks_or_isRefused with ⟨config, hasks⟩ | ⟨given, hrefused⟩
  · rw [hasks.validate] at hinvalid
    cases hinvalid
  · have hsame := hrefused.validate.symm.trans hinvalid
    cases hsame
    exact hrefused

end Options

end ShaderRegistry
