import Mathlib.Data.List.Induction
import ShaderRegistry.CommandLine.Parse
import ShaderRegistry.Proofs.Attempt
import ShaderRegistry.Proofs.CommandLine.Grammar

/-! # Making settings one after the other

Settings made in a row end in the options that they amount to, and none of them is refused
as long as they choose no two commands.
-/

namespace ShaderRegistry.CommandLine

theorem settingsOf_concat (switch : Switch) (settings : List Setting) (setting : Setting) :
    settingsOf switch (settings ++ [setting]) =
      if setting.switch = switch then settingsOf switch settings ++ [setting]
      else settingsOf switch settings := by
  unfold settingsOf
  rw [List.filter_append]
  split
  next hsame => simp [hsame]
  next hother => simp [hother]

/-- One more setting changes the meaning as it changes the options. -/
theorem meaning_concat (settings : List Setting) (setting : Setting) :
    meaning (settings ++ [setting]) = (meaning settings).set setting := by
  cases setting <;>
    simp [meaning, lastValue, settingsOf_concat, Options.set, Setting.switch, Setting.value?]

theorem Compatible.nil : Compatible [] := by
  simp [Compatible]

theorem compatible_concat_iff {settings : List Setting} {setting : Setting} :
    Compatible (settings ++ [setting]) ↔
      Compatible settings ∧ (setting.switch.choosesCommand = true →
        ∀ earlier ∈ settings, earlier.switch.choosesCommand = true →
          earlier.switch = setting.switch) := by
  unfold Compatible
  constructor
  · intro hall
    refine ⟨?_, ?_⟩
    · intro first hfirst second hsecond
      exact hall first (List.mem_append_left _ hfirst) second (List.mem_append_left _ hsecond)
    · intro hchooses earlier hearlier hearlierChooses
      exact hall earlier (List.mem_append_left _ hearlier) setting (by simp) hearlierChooses hchooses
  · rintro ⟨hall, hlast⟩ first hfirst second hsecond hfirstChooses hsecondChooses
    simp only [List.mem_append, List.mem_singleton] at hfirst hsecond
    rcases hfirst with hfirst | rfl
    · rcases hsecond with hsecond | rfl
      · exact hall first hfirst second hsecond hfirstChooses hsecondChooses
      · exact hlast hsecondChooses first hfirst hfirstChooses
    · rcases hsecond with hsecond | rfl
      · exact (hlast hfirstChooses second hsecond hsecondChooses).symm
      · rfl

/-- What is known once these settings have been made and nothing else has been met. -/
def Progress.made (settings : List Setting) : Progress where
  options := meaning settings
  chosen := (settings.find? fun setting => setting.switch.choosesCommand).map Setting.switch

namespace Progress

theorem made_concat (settings : List Setting) (setting : Setting) :
    made (settings ++ [setting]) =
      { made settings with
        options := (made settings).options.set setting
        chosen := (made settings).chosen.or
          (if setting.switch.choosesCommand then some setting.switch else none) } := by
  unfold made
  rw [meaning_concat, List.find?_append, Option.map_or]
  by_cases hchooses : setting.switch.choosesCommand = true
  · simp [hchooses]
  · simp [hchooses]

theorem chosen_made_eq_none {settings : List Setting} (hnone : (made settings).chosen = none) :
    ∀ setting ∈ settings, setting.switch.choosesCommand ≠ true := by
  simpa [made] using hnone

theorem chosen_made_eq_some {settings : List Setting} {switch : Switch}
    (hsome : (made settings).chosen = some switch) :
    ∃ setting ∈ settings, setting.switch = switch ∧ setting.switch.choosesCommand = true := by
  obtain ⟨setting, hfound, hswitch⟩ := Option.map_eq_some_iff.mp hsome
  have hcommand := List.find?_some hfound
  exact ⟨setting, List.mem_of_find?_eq_some hfound, hswitch, hcommand⟩

/-- One step: a setting that goes with those made before is made. -/
theorem set_made {settings : List Setting} {setting : Setting}
    (hcompatible : Compatible (settings ++ [setting])) :
    (made settings).set setting = .ok (made (settings ++ [setting])) := by
  have hlast := (compatible_concat_iff.mp hcompatible).2
  rw [made_concat]
  unfold set
  by_cases hchooses : setting.switch.choosesCommand = true
  · cases hchosen : (made settings).chosen with
    | none => simp [hchooses]
    | some switch =>
        obtain ⟨first, hfirst, rfl, hcommand⟩ := chosen_made_eq_some hchosen
        have hsame := hlast hchooses first hfirst hcommand
        simp [hchooses, hsame]
  · simp [hchooses]

theorem compatible_of_set_made {settings : List Setting} {setting : Setting} {next : Progress}
    (hcompatible : Compatible settings) (hset : (made settings).set setting = .ok next) :
    Compatible (settings ++ [setting]) := by
  refine compatible_concat_iff.mpr ⟨hcompatible, ?_⟩
  intro hchooses earlier hearlier hcommand
  simp only [set, hchooses, if_true] at hset
  cases hchosen : (made settings).chosen with
  | none => exact absurd hcommand (chosen_made_eq_none hchosen earlier hearlier)
  | some switch =>
      obtain ⟨first, hfirst, rfl, hfirstCommand⟩ := chosen_made_eq_some hchosen
      simp only [hchosen] at hset
      split at hset
      next hsame =>
        rw [← hsame]
        exact hcompatible earlier hearlier first hfirst hcommand hfirstCommand
      next => cases hset

end Progress

/-- Settings are made without a conflict exactly when they are compatible. -/
theorem foldlM_set_eq_ok_iff {settings : List Setting} {final : Progress} :
    settings.foldlM Progress.set {} = .ok final ↔
      Compatible settings ∧ final = Progress.made settings := by
  -- Settings are taken off the end, where the last step of the fold is.
  induction settings using List.reverseRecOn generalizing final with
  | nil =>
    simp [Compatible.nil, Progress.made, meaning, lastValue, settingsOf, pure, Except.pure, eq_comm]
  | append_singleton settings setting ih =>
      simp only [List.foldlM_append, bind_eq_ok_iff, ih, List.foldlM_cons, List.foldlM_nil,
        bind_pure]
      constructor
      · rintro ⟨_, ⟨hcompatible, rfl⟩, hset⟩
        have hall := Progress.compatible_of_set_made hcompatible hset
        rw [Progress.set_made hall] at hset
        cases hset
        exact ⟨hall, rfl⟩
      · rintro ⟨hall, rfl⟩
        have hcompatible := (compatible_concat_iff.mp hall).1
        exact ⟨_, ⟨hcompatible, rfl⟩, Progress.set_made hall⟩

section Reordering

variable {first second : List Setting}

theorem mem_settingsOf {switch : Switch} {settings : List Setting} {setting : Setting} :
    setting ∈ settingsOf switch settings ↔ setting ∈ settings ∧ setting.switch = switch := by
  simp [settingsOf]

/-- Settings that agree switch by switch are the same up to their order. -/
theorem mem_iff_of_settingsOf_eq
    (hsame : ∀ switch, settingsOf switch first = settingsOf switch second) (setting : Setting) :
    setting ∈ first ↔ setting ∈ second := by
  have hmem : setting ∈ settingsOf setting.switch first ↔
      setting ∈ settingsOf setting.switch second := by
    rw [hsame]
  simpa only [mem_settingsOf, and_true] using hmem

theorem Compatible.of_settingsOf_eq
    (hsame : ∀ switch, settingsOf switch first = settingsOf switch second)
    (hcompatible : Compatible first) : Compatible second := by
  unfold Compatible at *
  simpa only [mem_iff_of_settingsOf_eq hsame] using hcompatible

/-- The order between different switches is without a meaning. -/
theorem meaning_eq_of_settingsOf_eq
    (hsame : ∀ switch, settingsOf switch first = settingsOf switch second) :
    meaning first = meaning second := by
  simp only [meaning, lastValue, List.any_eq, mem_iff_of_settingsOf_eq hsame, hsame]

end Reordering

theorem exists_of_lastValue {switch : Switch} {settings : List Setting} {value : String}
    (hvalue : lastValue switch settings = some value) :
    ∃ setting ∈ settings, setting.switch = switch := by
  obtain ⟨setting, hlast, -⟩ := Option.bind_eq_some_iff.mp hvalue
  exact ⟨setting, mem_settingsOf.mp (List.mem_of_getLast? hlast)⟩

/-- No two settings of different commands stand side by side. -/
theorem Compatible.not_both {settings : List Setting} (hcompatible : Compatible settings)
    {first second : Switch} (hfirst : first.choosesCommand = true)
    (hsecond : second.choosesCommand = true) (hdifferent : first ≠ second)
    (hfirstMem : ∃ setting ∈ settings, setting.switch = first) :
    ∀ setting ∈ settings, setting.switch ≠ second := by
  obtain ⟨setting, hsetting, rfl⟩ := hfirstMem
  intro other hother hswitch
  subst hswitch
  exact hdifferent (hcompatible setting hsetting other hother hfirst hsecond)

theorem Compatible.hasSingleCommand {settings : List Setting}
    (hcompatible : Compatible settings) : (meaning settings).HasSingleCommand := by
  have hinfo : (∀ setting ∈ settings, setting.switch ≠ .info) → lastValue .info settings = none := by
    intro habsent
    by_contra hsome
    obtain ⟨value, hvalue⟩ := Option.ne_none_iff_exists'.mp hsome
    obtain ⟨setting, hsetting, hswitch⟩ := exists_of_lastValue hvalue
    exact habsent setting hsetting hswitch
  constructor
  · intro hprofiles
    have hmem : ∃ setting ∈ settings, setting.switch = .listProfiles := by
      simpa [meaning] using hprofiles
    refine ⟨?_, hinfo (hcompatible.not_both rfl rfl (by decide) hmem)⟩
    have hkinds : ∀ setting ∈ settings, setting.switch ≠ .listKinds :=
      hcompatible.not_both rfl rfl (by decide) hmem
    simpa [meaning] using hkinds
  · intro hkinds
    have hmem : ∃ setting ∈ settings, setting.switch = .listKinds := by
      simpa [meaning] using hkinds
    exact hinfo (hcompatible.not_both rfl rfl (by decide) hmem)

end ShaderRegistry.CommandLine
