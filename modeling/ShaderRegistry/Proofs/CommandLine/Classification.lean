import Mathlib.Data.List.Nodup
import Mathlib.Data.List.TakeWhile
import ShaderRegistry.CommandLine.Token
import ShaderRegistry.Proofs.Attempt
import ShaderRegistry.Proofs.CommandLine.Grammar

/-! # What arguments are taken for

The reader takes an argument for a switch exactly when the grammar says that it calls one,
and for a value exactly when the grammar says that it is plain.
-/

namespace ShaderRegistry.CommandLine

theorem exists_attach (argument : List Char) :
    ∃ name attached, '=' ∉ name ∧ argument = attach name attached := by
  by_cases hmem : '=' ∈ argument
  · obtain ⟨name, value, rfl, hname⟩ := List.eq_append_cons_of_mem hmem
    exact ⟨name, some (String.ofList value), hname, by simp [attach]⟩
  · exact ⟨argument, none, hmem, rfl⟩

theorem ne_equals_of_mem {name : List Char} (hname : '=' ∉ name) :
    ∀ char ∈ name, decide (char ≠ '=') = true := by
  intro char hchar
  apply decide_eq_true
  rintro rfl
  exact hname hchar

theorem takeWhile_attach {name : List Char} (hname : '=' ∉ name) (attached : Option String) :
    (attach name attached).takeWhile (· ≠ '=') = name := by
  cases attached with
  | none => exact List.takeWhile_eq_self_iff.mpr (ne_equals_of_mem hname)
  | some value =>
      rw [attach, List.takeWhile_append_of_pos (ne_equals_of_mem hname)]
      simp

theorem equals_notMem_longName (switch : Switch) : '=' ∉ switch.longName.toList := by
  cases switch <;> decide

theorem Switch.IsNamedBy.equals_notMem {switch : Switch} {name : List Char}
    (hname : switch.IsNamedBy name) : '=' ∉ name := by
  intro hmem
  exact equals_notMem_longName switch (((hname.2 switch).mpr rfl).subset hmem)

theorem isPrefix_attach (name : List Char) (attached : Option String) :
    name <+: attach name attached := by
  cases attached with
  | none => exact List.prefix_rfl
  | some value => exact List.prefix_append _ _

namespace Token

theorem splitAttached_attach {name : List Char} (hname : '=' ∉ name) (attached : Option String) :
    splitAttached (attach name attached) = (name, attached) := by
  unfold splitAttached
  rw [takeWhile_attach hname]
  cases attached with
  | none =>
      rw [attach, List.dropWhile_eq_nil_iff.mpr (ne_equals_of_mem hname)]
  | some value =>
      rw [attach, List.dropWhile_append_of_pos (ne_equals_of_mem hname)]
      simp

theorem mem_candidates {name : List Char} {switch : Switch} :
    switch ∈ candidates name ↔ name <+: switch.longName.toList := by
  simp [candidates, Switch.mem_all]

theorem candidates_eq_nil_iff {name : List Char} :
    candidates name = [] ↔ ∀ switch : Switch, ¬name <+: switch.longName.toList := by
  simp only [List.eq_nil_iff_forall_not_mem, mem_candidates]

theorem candidates_eq_singleton_iff {name : List Char} {switch : Switch} :
    candidates name = [switch] ↔
      ∀ other : Switch, name <+: other.longName.toList ↔ other = switch := by
  simp only [← mem_candidates]
  constructor
  · intro honly other
    rw [honly, List.mem_singleton]
  · intro hmem
    -- Without repetitions the candidates are known up to their order by their members.
    have hnodup : (candidates name).Nodup := List.Nodup.filter _ (by decide)
    apply List.perm_singleton.mp
    apply (List.perm_ext_iff_of_nodup hnodup (List.nodup_singleton switch)).mpr
    intro other
    rw [hmem, List.mem_singleton]

/-- A token that stands for nothing but an argument as a whole. -/
theorem unmatched_cases (argument : String) :
    unmatched argument = .value argument ∨ unmatched argument = .unknown argument := by
  unfold unmatched
  split
  · exact Or.inl rfl
  · exact Or.inr rfl

theorem ofLong_eq {argument : String} {name : List Char} {attached : Option String}
    (hname : '=' ∉ name) (hargument : argument.toList = attach name attached) :
    ofLong argument =
      match candidates name with
      | [] => .ok (unmatched argument)
      | [only] => .ok (.switch only attached)
      | several => .error (.ambiguous argument several) := by
  have hparts : splitAttached argument.toList = (name, attached) := by
    rw [hargument, splitAttached_attach hname]
  unfold ofLong
  generalize splitAttached argument.toList = parts at hparts
  subst hparts
  rfl

/-- What an argument is taken for, told from how it begins. -/
theorem ofArgument_cases (argument : String) :
    ['-', '-'] <+: argument.toList ∧ ofArgument argument = ofLong argument ∨
      ['-', 'h'] <+: argument.toList ∧ (ofArgument argument = .ok (.switch .help none) ∨
        ∃ tail, ofArgument argument = .ok (.cluster tail)) ∨
      (¬['-'] <+: argument.toList ∨ argument = "-") ∧
        ofArgument argument = .ok (.value argument) ∨
      ['-'] <+: argument.toList ∧ argument ≠ "-" ∧ ¬['-', '-'] <+: argument.toList ∧
        ¬['-', 'h'] <+: argument.toList ∧ ofArgument argument = .ok (unmatched argument) := by
  unfold ofArgument
  split
  next tail heq => simp [heq]
  next heq => simp [heq]
  next tail _ heq => simp [heq]
  next heq =>
    have hlone : argument = "-" := by simpa [← String.toList_inj] using heq
    simp [hlone]
  next tail hdashes _ hcluster hlone heq =>
    refine Or.inr (Or.inr (Or.inr ⟨⟨tail, heq.symm⟩, ?_, ?_, ?_, rfl⟩))
    · rintro rfl
      exact hlone (List.tail_eq_of_cons_eq heq).symm
    · rintro ⟨rest, hrest⟩
      exact hdashes rest (List.tail_eq_of_cons_eq (hrest.trans heq)).symm
    · rintro ⟨rest, hrest⟩
      exact hcluster rest (List.tail_eq_of_cons_eq (hrest.trans heq)).symm
  next _ _ _ _ hminus =>
    refine Or.inr (Or.inr (Or.inl ⟨Or.inl ?_, rfl⟩))
    rintro ⟨rest, hrest⟩
    exact hminus rest hrest.symm

theorem ofLong_eq_switch_iff {argument : String} {switch : Switch} {attached : Option String}
    (hdashes : ['-', '-'] <+: argument.toList) :
    ofLong argument = .ok (.switch switch attached) ↔ Calls argument switch attached := by
  constructor
  · obtain ⟨tail, htail⟩ := hdashes
    obtain ⟨name, given, hname, hargument⟩ := exists_attach argument.toList
    intro hlong
    rw [ofLong_eq hname hargument] at hlong
    split at hlong
    next => rcases unmatched_cases argument with hcase | hcase <;> simp [hcase] at hlong
    next only honly =>
      cases hlong
      refine ⟨name, ⟨?_, candidates_eq_singleton_iff.mp honly⟩, hargument⟩
      rw [← takeWhile_attach hname attached, ← hargument, ← htail]
      simp
    next => cases hlong
  · rintro ⟨name, hname, hargument⟩
    rw [ofLong_eq hname.equals_notMem hargument, candidates_eq_singleton_iff.mpr hname.2]

/-- Only help has a second spelling, so that the others are called as the grammar says. -/
theorem ofArgument_eq_switch_iff {argument : String} {switch : Switch} {attached : Option String}
    (hhelp : switch ≠ .help) :
    ofArgument argument = .ok (.switch switch attached) ↔ Calls argument switch attached := by
  by_cases hdashes : ['-', '-'] <+: argument.toList
  · have hlong : ofArgument argument = ofLong argument := by
      obtain ⟨tail, htail⟩ := hdashes
      rw [ofArgument, ← htail]
      rfl
    rw [hlong, ofLong_eq_switch_iff hdashes]
  · apply iff_of_false
    · intro hswitch
      rcases ofArgument_cases argument with ⟨hlong, -⟩ | ⟨-, hcluster | ⟨tail, hcluster⟩⟩ |
        ⟨-, hvalue⟩ | ⟨-, -, -, -, hother⟩
      · exact hdashes hlong
      · rw [hcluster] at hswitch
        cases hswitch
        exact hhelp rfl
      · simp [hcluster] at hswitch
      · simp [hvalue] at hswitch
      · rcases unmatched_cases argument with hcase | hcase <;> simp [hother, hcase] at hswitch
    · rintro ⟨name, hname, hargument⟩
      apply hdashes
      rw [hargument]
      exact hname.1.trans (isPrefix_attach name attached)

theorem isUnsigned_iff {text : List Char} : isUnsigned text = true ↔ IsNumeral text := by
  unfold isUnsigned
  constructor
  · intro hunsigned
    have hparts := List.takeWhile_append_dropWhile (p := Text.isDigit) (l := text)
    have hwhole : ∀ char ∈ text.takeWhile Text.isDigit, Text.isDigit char = true :=
      fun char hchar => List.mem_takeWhile_imp hchar
    cases hrest : text.dropWhile Text.isDigit with
    | nil =>
        rw [hrest, List.append_nil] at hparts
        simp only [hrest, hparts, decide_eq_true_eq] at hunsigned
        rw [hparts] at hwhole
        exact Or.inl ⟨hunsigned, hwhole⟩
    | cons point fraction =>
        simp only [hrest, Bool.and_eq_true, decide_eq_true_eq, List.all_eq_true] at hunsigned
        obtain ⟨⟨rfl, hnonempty⟩, hfraction⟩ := hunsigned
        rw [hrest] at hparts
        exact Or.inr ⟨_, fraction, hparts.symm, hwhole, hnonempty, hfraction⟩
  · rintro (⟨hnonempty, hdigits⟩ | ⟨whole, fraction, rfl, hwhole, hnonempty, hfraction⟩)
    · simp [List.takeWhile_eq_self_iff.mpr hdigits, List.dropWhile_eq_nil_iff.mpr hdigits,
        hnonempty]
    · have hpoint : Text.isDigit '.' = false := by decide
      rw [List.dropWhile_append_of_pos hwhole]
      simp [hpoint, hnonempty]
      exact hfraction

theorem lineFeed_notMem_of_isNumeral {text : List Char} (hnumeral : IsNumeral text) :
    '\n' ∉ text := by
  have hdigit : Text.isDigit '\n' = false := by decide
  have hnotMem : ∀ digits : List Char, (∀ char ∈ digits, Text.isDigit char = true) →
      '\n' ∉ digits := by
    intro digits hdigits hmem
    simp [hdigits _ hmem] at hdigit
  rcases hnumeral with ⟨-, hdigits⟩ | ⟨whole, fraction, rfl, hwhole, -, hfraction⟩
  · exact hnotMem text hdigits
  · simp [hnotMem whole hwhole, hnotMem fraction hfraction]

theorem isNegativeNumber_iff {text : List Char} :
    isNegativeNumber text = true ↔ IsNegative text := by
  constructor
  · intro hnegative
    unfold isNegativeNumber at hnegative
    split at hnegative
    next number =>
      by_cases hfeed : number.getLast? = some '\n'
      · rw [if_pos hfeed, isUnsigned_iff] at hnegative
        refine ⟨number.dropLast, hnegative, Or.inr ?_⟩
        rw [List.dropLast_append_getLast? '\n' hfeed]
      · rw [if_neg hfeed, isUnsigned_iff] at hnegative
        exact ⟨number, hnegative, Or.inl rfl⟩
    next => cases hnegative
  · rintro ⟨numeral, hnumeral, rfl | rfl⟩
    -- A numeral has no line feed itself, so that only an added one is overlooked.
    · have hfeed : numeral.getLast? ≠ some '\n' :=
        fun hlast => lineFeed_notMem_of_isNumeral hnumeral (List.mem_of_getLast? hlast)
      rw [isNegativeNumber, if_neg hfeed, isUnsigned_iff]
      exact hnumeral
    · have hfeed : (numeral ++ ['\n']).getLast? = some '\n' := by simp
      rw [isNegativeNumber, if_pos hfeed, List.dropLast_concat, isUnsigned_iff]
      exact hnumeral

theorem unmatched_eq_value_iff {argument text : String} :
    unmatched argument = .value text ↔
      (IsNegative argument.toList ∨ ' ' ∈ argument.toList) ∧ text = argument := by
  rw [← isNegativeNumber_iff]
  constructor
  · intro hvalue
    unfold unmatched at hvalue
    split at hvalue
    next hplain =>
      cases hvalue
      exact ⟨by simpa using hplain, rfl⟩
    next => cases hvalue
  · rintro ⟨hplain, rfl⟩
    rw [unmatched, if_pos (by simpa using hplain)]

theorem isPlain_iff_of_minus {argument : String} (hminus : ['-'] <+: argument.toList)
    (hlone : argument ≠ "-") :
    IsPlain argument ↔
      ¬OpensSwitch argument.toList ∧ (IsNegative argument.toList ∨ ' ' ∈ argument.toList) := by
  simp [IsPlain, hminus, hlone]

theorem opensSwitch_iff_of_dashes {argument : List Char} (hdashes : ['-', '-'] <+: argument) :
    OpensSwitch argument ↔ candidates (argument.takeWhile (· ≠ '=')) ≠ [] := by
  obtain ⟨tail, rfl⟩ := hdashes
  rw [Ne, candidates_eq_nil_iff]
  simp [OpensSwitch]

theorem ofLong_eq_value_iff {argument text : String} (hdashes : ['-', '-'] <+: argument.toList) :
    ofLong argument = .ok (.value text) ↔
      ¬OpensSwitch argument.toList ∧ unmatched argument = .value text := by
  obtain ⟨name, attached, hname, hargument⟩ := exists_attach argument.toList
  rw [opensSwitch_iff_of_dashes hdashes, ofLong_eq hname hargument, hargument,
    takeWhile_attach hname]
  split
  next hnone => simp [hnone]
  next only honly => simp [honly]
  next hsome _ => simp [show candidates name ≠ [] from hsome]

/-- Where an argument is taken for a value, the value is the argument itself. -/
theorem ofArgument_eq_value_iff {argument text : String} :
    ofArgument argument = .ok (.value text) ↔ IsPlain argument ∧ text = argument := by
  rcases ofArgument_cases argument with ⟨hdashes, heq⟩ | ⟨hhelp, heq⟩ | ⟨hplain, heq⟩ |
    ⟨hminus, hlone, hdashes, hhelp, heq⟩
  · have hminus : ['-'] <+: argument.toList := (List.prefix_append ['-'] ['-']).trans hdashes
    have hlone : argument ≠ "-" := by
      rintro rfl
      exact absurd hdashes (by decide)
    rw [heq, ofLong_eq_value_iff hdashes, isPlain_iff_of_minus hminus hlone,
      unmatched_eq_value_iff, and_assoc]
  · have hminus : ['-'] <+: argument.toList := (List.prefix_append ['-'] ['h']).trans hhelp
    have hlone : argument ≠ "-" := by
      rintro rfl
      exact absurd hhelp (by decide)
    rw [isPlain_iff_of_minus hminus hlone]
    apply iff_of_false
    · rcases heq with heq | ⟨tail, heq⟩ <;> simp [heq]
    · exact fun hplain => hplain.1.1 (Or.inl hhelp)
  · have hargument : IsPlain argument := hplain.imp id Or.inl
    simp [heq, hargument, eq_comm]
  · have hopens : ¬OpensSwitch argument.toList := by simp [OpensSwitch, hdashes, hhelp]
    rw [heq, isPlain_iff_of_minus hminus hlone, Except.ok.injEq, unmatched_eq_value_iff]
    simp [hopens]

/-- On its own the separator would be an abbreviation of every switch. -/
theorem ofArgument_separator : ofArgument "--" = .error (.ambiguous "--" Switch.all) := by
  decide

/-- Where no separator is met, every argument is classified by itself. -/
theorem ofArguments_eq_ok_iff {arguments : List String} {tokens : List Token}
    (hseparator : .separator ∉ tokens) :
    ofArguments arguments = .ok tokens ↔
      List.Forall₂ (fun argument token => ofArgument argument = .ok token) arguments tokens := by
  induction arguments generalizing tokens with
  | nil => simp [ofArguments, eq_comm]
  | cons argument rest ih =>
      rw [ofArguments, List.forall₂_cons_left_iff]
      by_cases hdashes : argument = "--"
      · rw [if_pos hdashes]
        -- The separator is not read as a token by itself, so that neither side can hold.
        constructor
        · intro htokens
          cases htokens
          exact absurd List.mem_cons_self hseparator
        · rintro ⟨token, tokens, htoken, -, -⟩
          simp [hdashes, ofArgument_separator] at htoken
      · simp only [if_neg hdashes, bind_eq_ok_iff]
        constructor
        · rintro ⟨token, htoken, tail, htail, hpure⟩
          cases hpure
          have hrest : .separator ∉ tail := fun hmem => hseparator (List.mem_cons_of_mem _ hmem)
          exact ⟨token, tail, htoken, (ih hrest).mp htail, rfl⟩
        · rintro ⟨token, tail, htoken, htail, rfl⟩
          have hrest : .separator ∉ tail := fun hmem => hseparator (List.mem_cons_of_mem _ hmem)
          exact ⟨token, htoken, tail, (ih hrest).mpr htail, rfl⟩

end Token

end ShaderRegistry.CommandLine
