import ShaderRegistry.Proofs.CommandLine.Meaning

/-! # How tokens take effect

Tokens that form a row of settings make these settings. Any other token is left over for
good or stops the reading, so that only such rows leave nothing over. Where text behind the
short name of help stops it, the editions differ in how.
-/

namespace ShaderRegistry.CommandLine

section Clusters

theorem dropWhile_repeated {rest : List Char} (hrest : rest.head? ≠ some 'h') (count : Nat) :
    (List.replicate count 'h' ++ rest).dropWhile (· = 'h') = rest := by
  have hrepeated : ∀ char ∈ List.replicate count 'h', decide (char = 'h') = true := by
    intro char hchar
    exact decide_eq_true (List.eq_of_mem_replicate hchar)
  rw [List.dropWhile_append_of_pos hrepeated]
  cases rest with
  | nil => rfl
  | cons char rest =>
      have hother : char ≠ 'h' := by simpa using hrest
      exact List.dropWhile_cons_of_neg (by simpa using hother)

theorem earlierClusterStop_of_head {tail : List Char} (hhead : tail.head? ≠ some '=') :
    earlierClusterStop tail = repeatedStop tail := by
  unfold earlierClusterStop
  split
  next => simp at hhead
  next => rfl

/-- Repeating the short name of help asks for help in either edition. -/
theorem clusterStop_repeated (edition : Edition) (count : Nat) :
    clusterStop edition (List.replicate (count + 1) 'h') = .help := by
  have hnothing : (List.replicate (count + 1) 'h').dropWhile (· = 'h') = [] := by
    simp
  cases edition with
  | earlier =>
      rw [clusterStop, earlierClusterStop_of_head (by simp [List.replicate_succ]), repeatedStop,
        hnothing]
      exact if_pos ⟨by simp, rfl⟩
  | later => rw [clusterStop, laterClusterStop, hnothing]

/-- In the later edition an equals sign attaches a value however often the name has been
repeated, and the value is told without it. -/
theorem laterClusterStop_equals (count : Nat) (value : String) :
    clusterStop .later (List.replicate count 'h' ++ '=' :: value.toList) =
      .usage (.unexpectedValue .help value) := by
  have hhead : ('=' :: value.toList).head? ≠ some 'h' := by simp
  simp only [clusterStop, laterClusterStop, dropWhile_repeated hhead, String.ofList_toList]

example : parse ["-hh=foo"] .later = .error (.usage (.unexpectedValue .help "foo")) := by
  decide

/-- Where other text follows the repetitions, the earlier edition takes it for a value and
the later one shows help. -/
theorem clusterStop_other {char : Char} (hname : char ≠ 'h') (hequals : char ≠ '=')
    (hminus : char ≠ '-') (count : Nat) (rest : List Char) :
    clusterStop .earlier (List.replicate count 'h' ++ char :: rest) =
        .usage (.unexpectedValue .help (String.ofList (char :: rest))) ∧
      clusterStop .later (List.replicate count 'h' ++ char :: rest) = .help := by
  have hother : (char :: rest).head? ≠ some 'h' := by simpa using hname
  have hvalue := dropWhile_repeated hother count
  have hhead : (List.replicate count 'h' ++ char :: rest).head? ≠ some '=' := by
    cases count <;> simp [List.replicate_succ, hequals]
  constructor
  · rw [clusterStop, earlierClusterStop_of_head hhead, repeatedStop, hvalue]
    exact if_neg (by simp)
  · rw [clusterStop, laterClusterStop, hvalue]
    split
    next heq => exact absurd (List.head_eq_of_cons_eq heq) hequals
    next heq => exact absurd (List.head_eq_of_cons_eq heq) hminus
    next => rfl

example : parse ["-hx"] .later = .error .help := by
  decide

end Clusters

/-- The tokens of a setting, once its arguments are classified. -/
inductive Setting.Formed (setting : Setting) : List Token → Prop
  | attached : Formed setting [.switch setting.switch setting.value?]
  | separate {value : String} (hvalue : setting.value? = some value) :
      Formed setting [.switch setting.switch none, .value value]

theorem Progress.leftOver_set {progress next : Progress} {setting : Setting}
    (hset : progress.set setting = .ok next) : next.leftOver = progress.leftOver := by
  unfold set at hset
  split at hset
  · split at hset
    · cases hset
      rfl
    · split at hset
      · cases hset
        rfl
      · cases hset
  · cases hset
    rfl

variable {edition : Edition}

theorem consume_formed {setting : Setting} {front : List Token} (hformed : setting.Formed front)
    (progress : Progress) (rest : List Token) :
    consume edition progress (front ++ rest) =
      progress.set setting >>= (consume edition · rest) := by
  cases hformed with
  | attached => cases setting <;> rfl
  | separate hvalue => cases setting <;> cases hvalue <;> rfl

/-- Reading the tokens of a row of settings is making the settings. -/
theorem consume_row {settings : List Setting} {tokens : List Token}
    (hrow : Row Setting.Formed settings tokens) (progress : Progress) :
    consume edition progress tokens = settings.foldlM Progress.set progress := by
  induction hrow generalizing progress with
  | nil => rfl
  | cons hfront hrest ih => simp only [consume_formed hfront, List.foldlM_cons, ih]

/-- What the tokens between two states of the reading have been: nothing of what was left
over before is lost, and if nothing is left over in the end they form a row of settings. -/
structure Consumed (progress : Progress) (tokens : List Token) (final : Progress) : Prop where
  leftOver : progress.leftOver <+: final.leftOver
  row : final.leftOver = [] → ∃ settings, Row Setting.Formed settings tokens ∧
    settings.foldlM Progress.set progress = .ok final

namespace Consumed

variable {progress next final : Progress} {rest : List Token}

theorem nil (progress : Progress) : Consumed progress [] progress where
  leftOver := List.prefix_rfl
  row := fun _ => ⟨[], Row.nil, rfl⟩

/-- A token that is left over spoils the row. -/
theorem leave {text : String} (token : Token) (hrest : Consumed (progress.leave text) rest final) :
    Consumed progress (token :: rest) final where
  leftOver := (List.prefix_append _ _).trans hrest.leftOver
  row := by
    intro hnothing
    have hleft := hrest.leftOver
    rw [hnothing, List.prefix_nil] at hleft
    simp [Progress.leave] at hleft

theorem set {setting : Setting} {front : List Token} (hformed : setting.Formed front)
    (hset : progress.set setting = .ok next) (hrest : Consumed next rest final) :
    Consumed progress (front ++ rest) final where
  leftOver := by
    rw [← Progress.leftOver_set hset]
    exact hrest.leftOver
  row := by
    intro hnothing
    obtain ⟨settings, hrow, hfold⟩ := hrest.row hnothing
    refine ⟨setting :: settings, hrow.cons hformed, ?_⟩
    rw [List.foldlM_cons, hset]
    exact hfold

/-- The step that every switch with a setting takes. -/
theorem of_bind (setting : Setting) {front : List Token} (hformed : setting.Formed front)
    (hconsume : progress.set setting >>= (consume edition · rest) = .ok final)
    (hrest : ∀ next, consume edition next rest = .ok final → Consumed next rest final) :
    Consumed progress (front ++ rest) final := by
  obtain ⟨next, hset, hnext⟩ := bind_eq_ok_iff.mp hconsume
  exact set hformed hset (hrest next hnext)

end Consumed

/-- The induction follows the reading token by token. Where it stops there is no final
state, and all that goes on is left over or makes a setting. -/
theorem consumed_of_consume {progress final : Progress} {tokens : List Token}
    (hconsume : consume edition progress tokens = .ok final) :
    Consumed progress tokens final := by
  fun_induction consume edition progress tokens with
  | case1 progress =>
      cases hconsume
      exact Consumed.nil _
  | case2 progress text rest ih => exact (ih hconsume).leave _
  | case3 progress text rest ih => exact (ih hconsume).leave _
  | case4 progress rest ih => exact (ih hconsume).leave _
  | case5 => cases hconsume
  | case6 => cases hconsume
  | case7 progress rest ih => exact Consumed.of_bind .listProfiles .attached hconsume ih
  | case8 progress rest ih => exact Consumed.of_bind .listKinds .attached hconsume ih
  | case9 progress name rest ih =>
      exact Consumed.of_bind (.info name) .attached hconsume ih
  | case10 progress name rest ih =>
      exact Consumed.of_bind (.kind name) .attached hconsume ih
  | case11 => cases hconsume
  | case12 progress name rest ih =>
      exact Consumed.of_bind (.info name) (.separate rfl) hconsume ih
  | case13 progress name rest ih =>
      exact Consumed.of_bind (.kind name) (.separate rfl) hconsume ih
  | case14 => cases hconsume

/-- The tokens that leave nothing over are those of compatible settings. -/
theorem exists_row_of_consume {tokens : List Token} {final : Progress}
    (hconsume : consume edition {} tokens = .ok final) (hnothing : final.leftOver = []) :
    ∃ settings, Row Setting.Formed settings tokens := by
  obtain ⟨settings, hrow, -⟩ := (consumed_of_consume hconsume).row hnothing
  exact ⟨settings, hrow⟩

end ShaderRegistry.CommandLine
