import ShaderRegistry.Proofs.Detail.Headline
import ShaderRegistry.Proofs.Report
import ShaderRegistry.Proofs.ValueText

/-! # The detail of a profile determines the profile

A name can hold line feeds and imitate the lines behind it, so a detail is read from its end.
There the last line on versions tells how many such lines there are, and hence where the
headline ends.
-/

namespace ShaderRegistry.Report

variable {first second : Profile}

theorem lineFeed_notMem_resourceTexts (profile : Profile) :
    ∀ row ∈ resourceTexts profile, '\n' ∉ row.toList := by
  simp only [resourceTexts, List.forall_mem_cons]
  exact ⟨(Text.isWord_toString _).lineFeed_notMem_append (by decide),
    (Text.isWord_toString _).lineFeed_notMem_append (by decide),
    (RegisterCount.isWord_text _).lineFeed_notMem_append (by decide),
    (isWord_yesNo _).lineFeed_notMem_append (by decide), by simp⟩

theorem lineFeed_notMem_versionTexts (profile : Profile) :
    ∀ row ∈ versionTexts profile, '\n' ∉ row.toList := by
  unfold versionTexts
  split
  · simp only [List.forall_mem_cons]
    exact ⟨(Version.isWord_text _).lineFeed_notMem_append (by decide),
      (isWord_validatorText _).lineFeed_notMem_append (by decide), by simp⟩
  · simp only [List.forall_mem_cons]
    exact ⟨by decide, by simp⟩

theorem lineFeed_notMem_derivativesText (profile : Profile) :
    '\n' ∉ (derivativesText profile).toList :=
  (isWord_yesNo _).lineFeed_notMem_append (by decide)

/-- The lines of a detail, of which the headline may take several and all others take one. -/
theorem exists_lines_detail (profile : Profile) :
    ∃ text, detail profile = .ok text ∧
      Text.lines text = Text.lines (headline profile) ++ resourceTexts profile ++
        versionTexts profile ++ [derivativesText profile] ++ [""] := by
  refine ⟨_, detail_eq profile, ?_⟩
  rw [Text.ofLines_cons, Text.lines_append_lineFeed, Text.lines_ofLines]
  · simp only [List.append_assoc]
  · intro row hrow
    rcases List.mem_append.mp hrow with hfront | hfinal
    · rcases List.mem_append.mp hfront with hresource | hversion
      · exact lineFeed_notMem_resourceTexts profile row hresource
      · exact lineFeed_notMem_versionTexts profile row hversion
    · rw [List.mem_singleton.mp hfinal]
      exact lineFeed_notMem_derivativesText profile

theorem versionTexts_ne_nil (profile : Profile) : versionTexts profile ≠ [] := by
  unfold versionTexts
  split <;> simp

/-- The last line on versions tells whether there are any. -/
theorem isDxilTarget_iff_getLast? (profile : Profile) :
    profile.isDxilTarget = true ↔
      (versionTexts profile).getLast? ≠ some "  DXIL version:      n/a (pre-DXIL profile)" := by
  by_cases htarget : profile.isDxilTarget = true
  · refine iff_of_true htarget ?_
    intro hlast
    rw [versionTexts, if_pos htarget] at hlast
    have hthird := congrArg (fun text => text.toList[2]?) (Option.some.inj hlast)
    simp at hthird
  · refine iff_of_false htarget ?_
    rw [versionTexts, if_neg htarget]
    exact fun hlast => hlast rfl

theorem length_versionTexts_eq (hsame : first.isDxilTarget = second.isDxilTarget) :
    (versionTexts first).length = (versionTexts second).length := by
  unfold versionTexts
  rw [hsame]
  split <;> rfl

/-- The two kinds that share their label differ in the use of derivatives. -/
theorem kind_eq_of_label (hlabel : first.kind.label = second.kind.label)
    (hderivatives : derivativesText first = derivativesText second) :
    first.kind = second.kind := by
  have hallows : first.allowsDerivatives first.kind = second.allowsDerivatives second.kind :=
    yesNo_injective ((String.append_right_inj _).mp hderivatives)
  rcases Kind.eq_or_of_label_eq hlabel with hkind | ⟨hfirst | hfirst, hsecond | hsecond⟩
  · exact hkind
  · rw [hfirst, hsecond]
  · rw [hfirst, hsecond] at hallows
    cases hallows
  · rw [hfirst, hsecond] at hallows
    cases hallows
  · rw [hfirst, hsecond]

theorem of_resourceTexts_eq (hsame : resourceTexts first = resourceTexts second) :
    first.inputRegisters = second.inputRegisters ∧
      first.outputRegisters = second.outputRegisters ∧
      first.uavRegisters = second.uavRegisters ∧ first.typedUavs = second.typedUavs := by
  simp only [resourceTexts, List.cons.injEq, String.append_right_inj, and_true] at hsame
  obtain ⟨hinputs, houtputs, huavs, htyped⟩ := hsame
  exact ⟨Text.toString_injective hinputs, Text.toString_injective houtputs,
    RegisterCount.text_injective huavs, yesNo_injective htyped⟩

/-- Details with the same lines have the same lines in every part. -/
theorem parts_eq_of_lines
    (hsame : Text.lines (headline first) ++ resourceTexts first ++ versionTexts first ++
        [derivativesText first] ++ [""] =
      Text.lines (headline second) ++ resourceTexts second ++ versionTexts second ++
        [derivativesText second] ++ [""]) :
    headline first = headline second ∧ resourceTexts first = resourceTexts second ∧
      derivativesText first = derivativesText second := by
  obtain ⟨hrows, -⟩ := List.append_inj' hsame rfl
  obtain ⟨hfront, hderivatives⟩ := List.append_inj' hrows rfl
  -- Only now is the number of lines on versions known to be the same.
  have hlast := congrArg List.getLast? hfront
  rw [List.getLast?_append_of_ne_nil _ (versionTexts_ne_nil first),
    List.getLast?_append_of_ne_nil _ (versionTexts_ne_nil second)] at hlast
  have htarget : first.isDxilTarget = second.isDxilTarget := by
    rw [Bool.eq_iff_iff, isDxilTarget_iff_getLast?, isDxilTarget_iff_getLast?, hlast]
  obtain ⟨hbody, -⟩ := List.append_inj' hfront (length_versionTexts_eq htarget)
  obtain ⟨hheadline, hresources⟩ := List.append_inj' hbody rfl
  exact ⟨Text.lines_injective hheadline, hresources, List.head_eq_of_cons_eq hderivatives⟩

theorem eq_of_detail_eq (hsame : detail first = detail second) : first = second := by
  obtain ⟨text, htext, hlines⟩ := exists_lines_detail first
  obtain ⟨other, hother, hotherLines⟩ := exists_lines_detail second
  rw [htext, hother] at hsame
  cases hsame
  obtain ⟨hheadline, hresources, hderivatives⟩ := parts_eq_of_lines (hlines.symm.trans hotherLines)
  obtain ⟨hname, hlabel, hmajor, hminor⟩ := of_headline_eq hheadline
  obtain ⟨hinputs, houtputs, huavs, htyped⟩ := of_resourceTexts_eq hresources
  have hkind := kind_eq_of_label hlabel hderivatives
  rcases first with ⟨⟨_, _, _⟩, _, _, _, _, _⟩
  rcases second with ⟨⟨_, _, _⟩, _, _, _, _, _⟩
  cases hkind
  cases hmajor
  cases hminor
  cases hname
  cases hinputs
  cases houtputs
  cases huavs
  cases htyped
  rfl

/-- Every profile has a detail, whatever its fields are, and two profiles with the same detail
agree in all fields. -/
theorem detail_identifies_profile (first : Profile) :
    (∃ text, detail first = .ok text) ∧
      ∀ second : Profile, detail first = detail second ↔ first = second := by
  refine ⟨exists_detail first, ?_⟩
  intro second
  constructor
  · exact eq_of_detail_eq
  · rintro rfl
    rfl

end ShaderRegistry.Report
