import ShaderRegistry.Proofs.Configuration
import ShaderRegistry.Proofs.Report

/-! # Validated configurations

A configuration has a report unless it is to describe a profile and holds none. Options that
pass the check never ask for such a configuration, whichever of them are given together, and
options that do not pass are refused with a registered code.
-/

namespace ShaderRegistry

theorem Catalog.exists_summaries (kindFilter : Option Kind) :
    ∃ rows, summaries kindFilter = .ok rows := by
  cases kindFilter with
  | none => exact ⟨_, summaries_none⟩
  | some kind => exact ⟨_, summaries_some kind⟩

namespace Config

variable {config : Config} {options : Options}

theorem exists_report_iff :
    (∃ text, config.report = .ok text) ↔
      (config.command = .info → config.infoProfile.isSome = true) := by
  cases hcommand : config.command with
  | listProfiles =>
      obtain ⟨rows, hrows⟩ := Catalog.exists_summaries config.kindFilter
      simp only [report, hcommand, hrows]
      exact iff_of_true ⟨_, rfl⟩ nofun
  | listKinds =>
      simp only [report, hcommand]
      exact iff_of_true ⟨_, rfl⟩ nofun
  | info =>
      cases hprofile : config.infoProfile with
      | none => simp [report, hcommand, hprofile]
      | some profile =>
          simp only [report, hcommand, hprofile]
          exact iff_of_true (Report.exists_detail profile) fun _ => rfl

/-- What a configuration holds that answers options. -/
structure Serves (config : Config) (options : Options) : Prop where
  command_name : config.command.name ∈ ["list-profiles", "list-kinds", "info"]
  infoProfile_isSome_iff : config.infoProfile.isSome = true ↔ config.command = .info
  infoProfile_listed : ∀ profile ∈ config.infoProfile,
    profile ∈ Catalog.profiles ∧ options.info = some profile.name
  command_of_kindFilter : config.kindFilter.isSome = true → config.command = .listProfiles
  kindFilter_ne_invalid : config.kindFilter ≠ some .invalid

theorem Serves.exists_report (hserves : config.Serves options) :
    ∃ text, config.report = .ok text :=
  exists_report_iff.mpr hserves.infoProfile_isSome_iff.mpr

end Config

theorem Command.name_mem (command : Command) :
    command.name ∈ ["list-profiles", "list-kinds", "info"] := by
  cases command <;> decide

namespace Refusal

/-- The code under which a refusal is raised, by its text. -/
def codeName : Refusal → String
  | .missingCommand => "MISSING_COMMAND"
  | .invalidProfile _ => "INVALID_PROFILE"
  | .unknownKind _ => "UNKNOWN_KIND"
  | .kindWithoutList => "KIND_WITHOUT_LIST"

theorem codeName_mem (refusal : Refusal) :
    refusal.codeName ∈
      ["MISSING_COMMAND", "INVALID_PROFILE", "UNKNOWN_KIND", "KIND_WITHOUT_LIST"] := by
  cases refusal <;> simp [codeName]

/-- No refusal is raised under a code that is not registered. -/
theorem ofText_codeName (refusal : Refusal) :
    Diagnostic.ofText refusal.codeName refusal.diagnostic.message
      refusal.diagnostic.suggestion = .ok refusal.diagnostic := by
  have hcode : refusal.codeName = refusal.diagnostic.code.text := by
    cases refusal <;> rfl
  rw [hcode, Diagnostic.ofText, ErrorCode.ofText?_text]

end Refusal

namespace Options

theorem Asks.serves {options : Options} {config : Config} (hasks : options.Asks config) :
    config.Serves options := by
  have hnone : ∀ profile ∈ (none : Option Profile),
      profile ∈ Catalog.profiles ∧ options.info = some profile.name :=
    fun profile hheld => absurd hheld (Option.not_mem_none profile)
  cases hasks with
  | allProfiles => exact ⟨Command.name_mem _, by simp, hnone, by simp, nofun⟩
  | profilesOf hlist hkind hcalled =>
      refine ⟨Command.name_mem _, by simp, hnone, by simp, ?_⟩
      intro hinvalid
      exact hcalled.1 (Option.some.inj hinvalid)
  | kinds => exact ⟨Command.name_mem _, by simp, hnone, by simp, nofun⟩
  | profile hlist hkind hkinds hinfo hprofile =>
      refine ⟨Command.name_mem _, by simp, ?_, by simp, nofun⟩
      intro held hheld
      cases hheld
      exact ⟨hprofile, hinfo⟩

/-- Whatever options are given, a configuration that passes the check serves them and has a
report, and options that do not pass are refused for a reason with a registered code. -/
theorem validated_config_has_report (options : Options) :
    (∀ config, options.validate = .ok config →
        config.Serves options ∧ ∃ text, config.report = .ok text) ∧
      ∀ refusal, options.validate = .error refusal →
        options.IsRefused refusal ∧
          refusal.codeName ∈
            ["MISSING_COMMAND", "INVALID_PROFILE", "UNKNOWN_KIND", "KIND_WITHOUT_LIST"] ∧
          Diagnostic.ofText refusal.codeName refusal.diagnostic.message
            refusal.diagnostic.suggestion = .ok refusal.diagnostic := by
  constructor
  · intro config hvalid
    have hserves := (validate_eq_ok_iff.mp hvalid).serves
    exact ⟨hserves, hserves.exists_report⟩
  · intro refusal hinvalid
    exact ⟨validate_eq_error_iff.mp hinvalid, refusal.codeName_mem, refusal.ofText_codeName⟩

/-- All switches at once, with the name of no profile. The list of profiles goes first. -/
def crowdedOptions : Options where
  listProfiles := true
  listKinds := true
  info := some "ps_9_9"
  kind := some "lib"

/-- The options are served by a list of libraries, and without their list of profiles they are
refused for the kind. -/
theorem crowdedOptions_served :
    crowdedOptions.validate = .ok { command := .listProfiles, kindFilter := some .library } ∧
      Config.Serves { command := .listProfiles, kindFilter := some .library } crowdedOptions ∧
      (∃ text, Config.report { command := .listProfiles, kindFilter := some .library } =
        .ok text) ∧
      validate { crowdedOptions with listProfiles := false } = .error .kindWithoutList ∧
      IsRefused { crowdedOptions with listProfiles := false } .kindWithoutList := by
  have hvalid : crowdedOptions.validate =
      .ok { command := .listProfiles, kindFilter := some .library } := by
    apply Asks.validate
    exact .profilesOf rfl rfl ⟨by decide, Or.inl rfl⟩
  have hrefused : validate { crowdedOptions with listProfiles := false } =
      .error .kindWithoutList := rfl
  obtain ⟨hserves, hreport⟩ := (validated_config_has_report crowdedOptions).1 _ hvalid
  exact ⟨hvalid, hserves, hreport, hrefused,
    ((validated_config_has_report _).2 _ hrefused).1⟩

end Options

end ShaderRegistry
