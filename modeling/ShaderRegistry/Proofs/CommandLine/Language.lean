import Mathlib.Data.List.Forall2
import ShaderRegistry.Proofs.CommandLine.Classification
import ShaderRegistry.Proofs.CommandLine.Consumption

/-! # The language of command lines

The command lines that give options are those that write compatible settings, and the
options are what the settings amount to.
-/

namespace ShaderRegistry.CommandLine

/-- Each argument is taken for the token in its place. -/
def Classified (arguments : List String) (tokens : List Token) : Prop :=
  List.Forall₂ (fun argument token => Token.ofArgument argument = .ok token) arguments tokens

namespace Setting

theorem switch_ne_help (setting : Setting) : setting.switch ≠ .help := by
  cases setting <;> simp [switch]

/-- The arguments that write a setting are those that are taken for its tokens. -/
theorem written_iff {setting : Setting} {arguments : List String} :
    setting.Written arguments ↔ ∃ tokens, setting.Formed tokens ∧ Classified arguments tokens := by
  constructor
  · intro hwritten
    cases hwritten with
    | attached hcalls =>
        have hargument := (Token.ofArgument_eq_switch_iff setting.switch_ne_help).mpr hcalls
        exact ⟨_, .attached, .cons hargument .nil⟩
    | separate hvalue hcalls hplain =>
        have hargument := (Token.ofArgument_eq_switch_iff setting.switch_ne_help).mpr hcalls
        have hnext := Token.ofArgument_eq_value_iff.mpr ⟨hplain, rfl⟩
        exact ⟨_, .separate hvalue, .cons hargument (.cons hnext .nil)⟩
  · rintro ⟨tokens, hformed, hclassified⟩
    cases hformed with
    | attached =>
        obtain ⟨argument, _, hargument, hnil, rfl⟩ := List.forall₂_cons_right_iff.mp hclassified
        cases hnil
        exact .attached ((Token.ofArgument_eq_switch_iff setting.switch_ne_help).mp hargument)
    | separate hvalue =>
        obtain ⟨argument, _, hargument, hrest, rfl⟩ := List.forall₂_cons_right_iff.mp hclassified
        obtain ⟨value, _, hnext, hnil, rfl⟩ := List.forall₂_cons_right_iff.mp hrest
        cases hnil
        obtain ⟨hplain, rfl⟩ := Token.ofArgument_eq_value_iff.mp hnext
        exact .separate hvalue
          ((Token.ofArgument_eq_switch_iff setting.switch_ne_help).mp hargument) hplain

end Setting

theorem spells_iff {settings : List Setting} {arguments : List String} :
    Spells settings arguments ↔
      ∃ tokens, Row Setting.Formed settings tokens ∧ Classified arguments tokens := by
  constructor
  · intro hspells
    induction hspells with
    | nil => exact ⟨[], .nil, .nil⟩
    | cons hfront _ ih =>
        obtain ⟨front, hformed, hclassified⟩ := Setting.written_iff.mp hfront
        obtain ⟨rest, hrow, hrest⟩ := ih
        exact ⟨front ++ rest, hrow.cons hformed, List.rel_append hclassified hrest⟩
  · rintro ⟨tokens, hrow, hclassified⟩
    induction hrow generalizing arguments with
    | nil =>
        cases hclassified
        exact .nil
    | @cons setting settings front rest hformed hrow ih =>
        have hfront := List.forall₂_take_append arguments front rest hclassified
        have hrest := ih (List.forall₂_drop_append arguments front rest hclassified)
        rw [← List.take_append_drop front.length arguments]
        exact hrest.cons (Setting.written_iff.mpr ⟨front, hformed, hfront⟩)

theorem separator_notMem_row {settings : List Setting} {tokens : List Token}
    (hrow : Row Setting.Formed settings tokens) : .separator ∉ tokens := by
  induction hrow with
  | nil => simp
  | cons hfront _ ih => cases hfront <;> simp [ih]

variable {edition : Edition}

theorem parse_eq_ok_iff {arguments : List String} {options : Options} :
    parse arguments edition = .ok options ↔
      ∃ tokens final, Token.ofArguments arguments = .ok tokens ∧
        consume edition {} tokens = .ok final ∧
        final.leftOver = [] ∧ final.options = options := by
  simp only [parse, bind_eq_ok_iff, mapError_eq_ok_iff]
  constructor
  · rintro ⟨tokens, htokens, final, hconsume, hend⟩
    split at hend
    next hnothing =>
      cases hend
      exact ⟨tokens, final, htokens, hconsume, hnothing, rfl⟩
    next => cases hend
  · rintro ⟨tokens, final, htokens, hconsume, hnothing, rfl⟩
    refine ⟨tokens, htokens, final, hconsume, ?_⟩
    rw [hnothing]
    rfl

/-- Written settings are read as what they amount to, if no two of them conflict. -/
theorem parse_of_spells {settings : List Setting} {arguments : List String}
    (hspells : Spells settings arguments) (options : Options) :
    parse arguments edition = .ok options ↔
      Compatible settings ∧ options = meaning settings := by
  obtain ⟨tokens, hrow, hclassified⟩ := spells_iff.mp hspells
  have htokens := (Token.ofArguments_eq_ok_iff (separator_notMem_row hrow)).mpr hclassified
  rw [parse_eq_ok_iff, htokens]
  constructor
  · rintro ⟨_, final, hsame, hconsume, -, rfl⟩
    cases hsame
    rw [consume_row hrow, foldlM_set_eq_ok_iff] at hconsume
    obtain ⟨hcompatible, rfl⟩ := hconsume
    exact ⟨hcompatible, rfl⟩
  · rintro ⟨hcompatible, rfl⟩
    refine ⟨tokens, Progress.made settings, rfl, ?_, rfl, rfl⟩
    rw [consume_row hrow, foldlM_set_eq_ok_iff]
    exact ⟨hcompatible, rfl⟩

/-- Whatever is read has been written as settings. -/
theorem exists_spells_of_parse {arguments : List String} {options : Options}
    (hparse : parse arguments edition = .ok options) : ∃ settings, Spells settings arguments := by
  obtain ⟨tokens, final, htokens, hconsume, hnothing, -⟩ := parse_eq_ok_iff.mp hparse
  obtain ⟨settings, hrow⟩ := exists_row_of_consume hconsume hnothing
  have hclassified := (Token.ofArguments_eq_ok_iff (separator_notMem_row hrow)).mp htokens
  exact ⟨settings, spells_iff.mpr ⟨tokens, hrow, hclassified⟩⟩

theorem hasSingleCommand_of_parse {arguments : List String} {options : Options}
    (hparse : parse arguments edition = .ok options) : options.HasSingleCommand := by
  obtain ⟨settings, hspells⟩ := exists_spells_of_parse hparse
  obtain ⟨hcompatible, rfl⟩ := (parse_of_spells hspells options).mp hparse
  exact hcompatible.hasSingleCommand

section Arguments

variable {argument : String} {switch : Switch} {attached : Option String}

theorem Calls.opensSwitch (hcalls : Calls argument switch attached) :
    OpensSwitch argument.toList := by
  obtain ⟨name, hname, hargument⟩ := hcalls
  rw [hargument]
  refine Or.inr ⟨hname.1.trans (isPrefix_attach name attached), switch, ?_⟩
  rw [takeWhile_attach hname.equals_notMem]
  exact (hname.2 switch).mpr rfl

/-- An argument calls no more than one switch. -/
theorem Calls.switch_eq {other : Switch} {given : Option String}
    (hcalls : Calls argument switch attached) (hother : Calls argument other given) :
    switch = other := by
  obtain ⟨name, hname, hargument⟩ := hcalls
  obtain ⟨second, hsecond, hsame⟩ := hother
  have hnames := congrArg (List.takeWhile (· ≠ '=')) (hargument.symm.trans hsame)
  rw [takeWhile_attach hname.equals_notMem, takeWhile_attach hsecond.equals_notMem] at hnames
  subst hnames
  exact (hsecond.2 switch).mp ((hname.2 switch).mpr rfl)

theorem OpensSwitch.minus_isPrefix {text : List Char} (hopens : OpensSwitch text) :
    ['-'] <+: text := by
  rcases hopens with hhelp | ⟨hdashes, -⟩
  · exact (List.prefix_append ['-'] ['h']).trans hhelp
  · exact (List.prefix_append ['-'] ['-']).trans hdashes

theorem IsPlain.not_opensSwitch (hplain : IsPlain argument) : ¬OpensSwitch argument.toList := by
  rcases hplain with hminus | rfl | ⟨hopens, -⟩
  · exact fun hopens => hminus hopens.minus_isPrefix
  · rintro (hhelp | ⟨hdashes, -⟩)
    · exact absurd hhelp (by decide)
    · exact absurd hdashes (by decide)
  · exact hopens

/-- An argument that is plain or calls a switch other than help is no separator, and asks
for no help in any spelling. -/
theorem not_separator_or_help (hargument : IsPlain argument ∨
      ∃ switch attached, switch ≠ .help ∧ Calls argument switch attached) :
    argument ≠ "--" ∧ ¬['-', 'h'] <+: argument.toList ∧
      ∀ attached, ¬Calls argument .help attached := by
  rcases hargument with hplain | ⟨switch, attached, hother, hcalls⟩
  · refine ⟨?_, ?_, ?_⟩
    · rintro rfl
      exact hplain.not_opensSwitch (Or.inr ⟨List.prefix_rfl, .help, by decide⟩)
    · exact fun hhelp => hplain.not_opensSwitch (Or.inl hhelp)
    · exact fun attached hcalls => hplain.not_opensSwitch hcalls.opensSwitch
  · refine ⟨?_, ?_, ?_⟩
    · rintro rfl
      have hswitch := (Token.ofArgument_eq_switch_iff hother).mpr hcalls
      simp [Token.ofArgument_separator] at hswitch
    · rintro ⟨back, hback⟩
      obtain ⟨name, ⟨⟨rest, hrest⟩, -⟩, hargument⟩ := hcalls
      obtain ⟨tail, htail⟩ := isPrefix_attach name attached
      rw [hargument, ← htail, ← hrest] at hback
      simp at hback
    · exact fun given hhelp => hother (hcalls.switch_eq hhelp)

end Arguments

theorem Spells.argument_cases {settings : List Setting} {arguments : List String}
    (hspells : Spells settings arguments) : ∀ argument ∈ arguments,
      IsPlain argument ∨ ∃ switch attached, switch ≠ .help ∧ Calls argument switch attached := by
  induction hspells with
  | nil => simp
  | @cons setting _ _ _ hfront _ ih =>
      have hcalls : ∀ {argument attached}, Calls argument setting.switch attached →
          ∃ switch attached, switch ≠ .help ∧ Calls argument switch attached :=
        fun hcalls => ⟨_, _, setting.switch_ne_help, hcalls⟩
      intro argument hargument
      rcases List.mem_append.mp hargument with hfrontMem | hrest
      · cases hfront with
        | attached hattached =>
            rw [List.mem_singleton] at hfrontMem
            subst hfrontMem
            exact Or.inr (hcalls hattached)
        | separate hvalue hseparate hplain =>
            simp only [List.mem_cons, List.not_mem_nil, or_false] at hfrontMem
            rcases hfrontMem with rfl | rfl
            · exact Or.inr (hcalls hseparate)
            · exact Or.inl hplain
      · exact ih argument hrest

/-- In either edition a command line is read exactly when it writes settings that choose no
two commands, and it is read as what the settings amount to. So it has no separator and no
call for help, and where each switch keeps its own settings in order it may be rearranged. -/
theorem parse_eq_ok_iff_spells (arguments : List String) (edition : Edition) :
    (∀ options, parse arguments edition = .ok options ↔
        ∃ settings, Spells settings arguments ∧ Compatible settings ∧
          options = meaning settings) ∧
      (∀ options, parse arguments edition = .ok options → options.HasSingleCommand ∧
        ∀ argument ∈ arguments,
          (IsPlain argument ∨ ∃ switch attached, switch ≠ .help ∧
            Calls argument switch attached) ∧
          argument ≠ "--" ∧ ¬['-', 'h'] <+: argument.toList ∧
            ∀ attached, ¬Calls argument .help attached) ∧
      ∀ settings, Spells settings arguments → ∀ reordered others, Spells reordered others →
        (∀ switch, settingsOf switch settings = settingsOf switch reordered) →
          ∀ options, parse arguments edition = .ok options ↔
            parse others edition = .ok options := by
  refine ⟨?_, ?_, ?_⟩
  · intro options
    constructor
    · intro hparse
      obtain ⟨settings, hspells⟩ := exists_spells_of_parse hparse
      exact ⟨settings, hspells, (parse_of_spells hspells options).mp hparse⟩
    · rintro ⟨settings, hspells, hmeaning⟩
      exact (parse_of_spells hspells options).mpr hmeaning
  · intro options hparse
    obtain ⟨settings, hspells⟩ := exists_spells_of_parse hparse
    refine ⟨hasSingleCommand_of_parse hparse, ?_⟩
    intro argument hargument
    have hcases := hspells.argument_cases argument hargument
    exact ⟨hcases, not_separator_or_help hcases⟩
  · intro settings hspells reordered others hothers hsame options
    rw [parse_of_spells hspells, parse_of_spells hothers, meaning_eq_of_settingsOf_eq hsame]
    have hback : ∀ switch, settingsOf switch reordered = settingsOf switch settings :=
      fun switch => (hsame switch).symm
    exact and_congr_left' ⟨Compatible.of_settingsOf_eq hsame, Compatible.of_settingsOf_eq hback⟩

end ShaderRegistry.CommandLine
