import ShaderRegistry.CommandLine.Run
import ShaderRegistry.Proofs.Configuration
import ShaderRegistry.Proofs.Report
import ShaderRegistry.Proofs.CommandLine.Language
import ShaderRegistry.Proofs.Listing.Kinds

/-! # What every command line does

A command line that cannot be read ends where the reading does. One that can be read is
either answered by a single report or refused for a single reason, and nothing is ever
written about it to the errors.
-/

namespace ShaderRegistry

/-- The lines that a user gets to read about a refusal. -/
def Refusal.complaint : Refusal → List String
  | .kindWithoutList =>
    ["Config error [KIND_WITHOUT_LIST]: --kind requires --list-profiles.",
      "Hint: Add --list-profiles or remove --kind."]
  | .unknownKind name =>
    ["Config error [UNKNOWN_KIND]: Unknown shader kind: " ++ name,
      "Hint: Use a short name (ps, cs, lib) or a full name (pixel, compute)."]
  | .invalidProfile name =>
    ["Config error [INVALID_PROFILE]: Unknown shader profile: " ++ name,
      "Hint: Profiles look like <stage>_<major>_<minor> (for example ps_6_6 or lib_6_x)."]
  | .missingCommand =>
    ["Config error [MISSING_COMMAND]: No command given.",
      "Hint: Pass one of --list-profiles, --list-kinds or --info PROFILE."]

theorem Diagnostic.text_of_suggestion {diagnostic : Diagnostic} {suggestion : String}
    (hsuggestion : diagnostic.suggestion = some suggestion) (hsome : suggestion ≠ "") :
    diagnostic.text =
      Text.ofLines ["Config error [" ++ diagnostic.code.text ++ "]: " ++ diagnostic.message,
        "Hint: " ++ suggestion] := by
  have hhint : hint diagnostic.suggestion = "Hint: " ++ suggestion ++ "\n" := by
    rw [hsuggestion]
    exact if_neg hsome
  simp only [Text.ofLines_cons, Text.ofLines_nil, String.append_empty]
  rw [← hhint]
  rfl

theorem Refusal.diagnostic_text (refusal : Refusal) :
    refusal.diagnostic.text = Text.ofLines refusal.complaint := by
  cases refusal
  all_goals
    rw [Diagnostic.text_of_suggestion rfl (by decide)]
    simp only [complaint, diagnostic, ErrorCode.text, ← String.append_assoc]
    rfl

namespace Options

variable {options : Options}

/-- Options that ask for an answer there is: for a list of profiles, perhaps of one kind,
or without any kind for the list of kinds or for a profile of the catalogue. -/
def IsAnswerable (options : Options) : Prop :=
  (options.listProfiles = true ∧
      ∀ name, options.kind = some name → ∃ kind : Kind, kind.IsCalled name) ∨
    (options.listKinds = true ∧ options.kind = none) ∨
    (∃ profile ∈ Catalog.profiles, options.info = some profile.name) ∧ options.kind = none

/-- The report that answers options. -/
inductive IsAnsweredBy (options : Options) : String → Prop
  | allProfiles (hlist : options.listProfiles = true) (hkind : options.kind = none) :
      IsAnsweredBy options (Report.profileTable (Catalog.profiles.map Profile.row))
  | profilesOf {name : String} {kind : Kind} {listed : List Profile}
      (hlist : options.listProfiles = true) (hkind : options.kind = some name)
      (hcalled : kind.IsCalled name) (hlisted : Catalog.IsListOf kind listed) :
      IsAnsweredBy options (Report.profileTable (listed.map Profile.row))
  | kinds (hkinds : options.listKinds = true) (hkind : options.kind = none) :
      IsAnsweredBy options (Text.ofLines Report.kindTableLines)
  | profile {profile : Profile} {text : String} (hprofile : profile ∈ Catalog.profiles)
      (hinfo : options.info = some profile.name) (hkind : options.kind = none)
      (hdetail : Report.detail profile = .ok text) : IsAnsweredBy options text

theorem IsAnswerable.exists_answer (hanswerable : options.IsAnswerable) :
    ∃ text, options.IsAnsweredBy text := by
  rcases hanswerable with ⟨hlist, hknown⟩ | ⟨hkinds, hkind⟩ | ⟨⟨profile, hprofile, hinfo⟩, hkind⟩
  · cases hkind : options.kind with
    | none => exact ⟨_, .allProfiles hlist hkind⟩
    | some name =>
        obtain ⟨kind, hcalled⟩ := hknown name hkind
        exact ⟨_, .profilesOf hlist hkind hcalled (Catalog.isListOf_profilesOf kind)⟩
  · exact ⟨_, .kinds hkinds hkind⟩
  · obtain ⟨text, hdetail⟩ := Report.exists_detail profile
    exact ⟨text, .profile hprofile hinfo hkind hdetail⟩

theorem Asks.isAnswerable {config : Config} (hasks : options.Asks config) :
    options.IsAnswerable := by
  cases hasks with
  | allProfiles hlist hkind => exact Or.inl ⟨hlist, by simp [hkind]⟩
  | profilesOf hlist hkind hcalled =>
      refine Or.inl ⟨hlist, ?_⟩
      intro name hname
      rw [hkind] at hname
      cases hname
      exact ⟨_, hcalled⟩
  | kinds _ hkind hkinds => exact Or.inr (Or.inl ⟨hkinds, hkind⟩)
  | profile _ hkind _ hinfo hprofile => exact Or.inr (Or.inr ⟨⟨_, hprofile, hinfo⟩, hkind⟩)

theorem HasSingleCommand.listProfiles_eq_false (hsingle : options.HasSingleCommand)
    (hother : options.listKinds = true ∨ ∃ name, options.info = some name) :
    options.listProfiles = false := by
  apply Bool.eq_false_of_not_eq_true
  intro hlist
  obtain ⟨hkinds, hinfo⟩ := hsingle.of_listProfiles hlist
  simp [hkinds, hinfo] at hother

theorem HasSingleCommand.listKinds_eq_false (hsingle : options.HasSingleCommand) {name : String}
    (hinfo : options.info = some name) : options.listKinds = false := by
  apply Bool.eq_false_of_not_eq_true
  intro hkinds
  rw [hsingle.of_listKinds hkinds] at hinfo
  cases hinfo

/-- As no two commands are given, the report does not depend on which of them goes first. -/
theorem IsAnsweredBy.exists_report {text : String} (hanswer : options.IsAnsweredBy text)
    (hsingle : options.HasSingleCommand) :
    ∃ config, options.Asks config ∧ config.report = .ok text := by
  cases hanswer with
  | allProfiles hlist hkind =>
      refine ⟨_, .allProfiles hlist hkind, ?_⟩
      simp only [Config.report, Catalog.summaries_none]
      rfl
  | profilesOf hlist hkind hcalled hlisted =>
      refine ⟨_, .profilesOf hlist hkind hcalled, ?_⟩
      simp only [Config.report, Catalog.summaries_some, hlisted.eq_profilesOf]
      rfl
  | kinds hkinds hkind =>
      have hlist := hsingle.listProfiles_eq_false (Or.inl hkinds)
      refine ⟨_, .kinds hlist hkind hkinds, ?_⟩
      rw [← Report.kindTable_eq_lines]
      rfl
  | profile hprofile hinfo hkind hdetail =>
      have hlist := hsingle.listProfiles_eq_false (Or.inr ⟨_, hinfo⟩)
      have hkinds := hsingle.listKinds_eq_false hinfo
      exact ⟨_, .profile hlist hkind hkinds hinfo hprofile, hdetail⟩

end Options

namespace CommandLine

variable {arguments : List String} {edition : Edition} {options : Options}

theorem run_of_isAnsweredBy (hparse : parse arguments edition = .ok options) {text : String}
    (hanswer : options.IsAnsweredBy text) : run arguments edition = ⟨0, text, ""⟩ := by
  obtain ⟨config, hasks, hreport⟩ := hanswer.exists_report (hasSingleCommand_of_parse hparse)
  simp only [run, hparse, hasks.validate, hreport]

theorem run_of_isRefused (hparse : parse arguments edition = .ok options) {refusal : Refusal}
    (hrefused : options.IsRefused refusal) :
    run arguments edition = ⟨1, Text.ofLines refusal.complaint, ""⟩ := by
  simp only [run, hparse, hrefused.validate, refusal.diagnostic_text]

/-- In either edition a command line ends as its reading does, unless it gives options. These
are answered with a code of zero or refused with a code of one, and with no errors either
way. -/
theorem run_answers_or_refuses (arguments : List String) (edition : Edition) :
    (parse arguments edition = .error .help → run arguments edition = ⟨0, helpText, ""⟩) ∧
      (∀ error, parse arguments edition = .error (.usage error) →
        run arguments edition = ⟨2, "", error.text⟩) ∧
      ∀ options, parse arguments edition = .ok options →
        ((run arguments edition).exitCode = 0 ∧ (run arguments edition).errors = "" ↔
            options.IsAnswerable) ∧
          (options.IsAnswerable → ∃ text, options.IsAnsweredBy text) ∧
          (∀ text, options.IsAnsweredBy text → run arguments edition = ⟨0, text, ""⟩) ∧
          (¬options.IsAnswerable → ∃ refusal, options.IsRefused refusal) ∧
          ∀ refusal, options.IsRefused refusal →
            run arguments edition = ⟨1, Text.ofLines refusal.complaint, ""⟩ := by
  refine ⟨?_, ?_, ?_⟩
  · intro hhelp
    simp only [run, hhelp, Stop.outcome]
  · intro error husage
    simp only [run, husage, Stop.outcome]
  · intro options hparse
    have hrefusal : ¬options.IsAnswerable → ∃ refusal, options.IsRefused refusal := by
      intro hunanswerable
      rcases options.asks_or_isRefused with ⟨config, hasks⟩ | hrefused
      · exact absurd hasks.isAnswerable hunanswerable
      · exact hrefused
    refine ⟨?_, Options.IsAnswerable.exists_answer, fun _ => run_of_isAnsweredBy hparse, hrefusal,
      fun _ => run_of_isRefused hparse⟩
    constructor
    · intro hexit
      by_contra hunanswerable
      obtain ⟨refusal, hrefused⟩ := hrefusal hunanswerable
      rw [run_of_isRefused hparse hrefused] at hexit
      have hcode : (1 : UInt32) = 0 := hexit.1
      exact absurd hcode (by decide)
    · intro hanswerable
      obtain ⟨text, hanswer⟩ := hanswerable.exists_answer
      rw [run_of_isAnsweredBy hparse hanswer]
      exact ⟨rfl, rfl⟩

/-- The profile and the kind are both unknown, and yet it is the missing list that counts. -/
example (edition : Edition) : run ["--info", "ps_9_9", "--kind", "nothing"] edition =
    ⟨1, Text.ofLines (Refusal.complaint .kindWithoutList), ""⟩ := by
  cases edition <;> decide +kernel

end CommandLine

end ShaderRegistry
