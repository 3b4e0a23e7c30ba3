import ShaderRegistry.Report
import ShaderRegistry.Proofs.CanonicalName

/-! # The headline of a profile

Whatever stands in the name, the last parenthesis that a headline opens is the one behind the
name. The headline therefore tells the name, and what follows tells the version and, but for
the two kinds without a full name, the kind.
-/

namespace ShaderRegistry

namespace Kind

theorem label_of_fullName? {kind : Kind} {name : String} (hfull : kind.fullName? = some name) :
    kind.label = name := by
  rw [label, hfull]
  rfl

theorem isLower_of_mem_label (kind : Kind) : ∀ char ∈ kind.label.toList, char.isLower = true := by
  cases hfull : kind.fullName? with
  | none =>
      rw [label, hfull]
      simp
  | some name =>
      rw [label_of_fullName? hfull]
      exact isLower_of_fullName? hfull

theorem notMem_label {char : Char} (hchar : char.isLower = false) (kind : Kind) :
    char ∉ kind.label.toList := by
  intro hmem
  rw [isLower_of_mem_label kind char hmem] at hchar
  cases hchar

theorem label_eq_library_iff (kind : Kind) :
    kind.label = "library" ↔ kind = .library ∨ kind = .invalid := by
  cases kind <;> decide

theorem fullName?_eq_label {kind : Kind} (hkind : kind.label ≠ "library") :
    kind.fullName? = some kind.label := by
  cases hfull : kind.fullName? with
  | none => exact absurd (by rw [label, hfull]; rfl) hkind
  | some name => rw [label_of_fullName? hfull]

/-- Only the kinds without a full name share their label. -/
theorem eq_or_of_label_eq {first second : Kind} (hlabel : first.label = second.label) :
    first = second ∨
      (first = .library ∨ first = .invalid) ∧ (second = .library ∨ second = .invalid) := by
  by_cases hlibrary : first.label = "library"
  · have hsecond : second.label = "library" := hlabel.symm.trans hlibrary
    exact Or.inr ⟨(label_eq_library_iff first).mp hlibrary,
      (label_eq_library_iff second).mp hsecond⟩
  · have hother : second.label ≠ "library" := hlabel ▸ hlibrary
    have hfirst := ofFullName_fullName (fullName?_eq_label hlibrary)
    have hsecond := ofFullName_fullName (fullName?_eq_label hother)
    rw [hlabel, hsecond] at hfirst
    exact Or.inl hfirst.symm

end Kind

namespace Minor

/-- What a headline has behind the major version. -/
def closing (minor : Minor) : String :=
  minor.text ++ (if minor = .offline then ", offline linking only" else "") ++ ")"

theorem closing_numeric (number : Int) : (numeric number).closing = toString number ++ ")" := by
  simp [closing, text]

/-- The minor ends before the first comma or parenthesis. -/
theorem takeWhile_closing (minor : Minor) :
    minor.closing.toList.takeWhile (fun char => char ≠ ',' ∧ char ≠ ')') =
      minor.text.toList := by
  cases minor with
  | numeric number =>
      have hnumber : ∀ char ∈ (toString number).toList,
          decide (char ≠ ',' ∧ char ≠ ')') = true := by
        intro char hmem
        have hcomma := Text.notMem_toString (by decide : ',' ≠ '-') rfl number
        have hparenthesis := Text.notMem_toString (by decide : ')' ≠ '-') rfl number
        apply decide_eq_true
        constructor
        · rintro rfl
          exact hcomma hmem
        · rintro rfl
          exact hparenthesis hmem
      rw [closing_numeric, String.toList_append, List.takeWhile_append_of_pos hnumber]
      exact List.append_nil _
  | offline => decide

theorem closing_injective {first second : Minor} (hsame : first.closing = second.closing) :
    first = second := by
  apply text_injective
  apply String.toList_inj.mp
  rw [← takeWhile_closing first, hsame, takeWhile_closing]

end Minor

namespace Report

/-- What a headline has between its last pair of parentheses, with the second of the two. -/
def description (profile : Profile) : List Char :=
  profile.kind.label.toList ++
    ' ' :: ("shader model ".toList ++
      ((toString profile.major).toList ++ '.' :: profile.minor.closing.toList))

theorem toList_headline (profile : Profile) :
    (headline profile).toList = profile.name.toList ++ ' ' :: '(' :: description profile := by
  simp [headline, description, Minor.closing]

theorem parenthesis_notMem_description (profile : Profile) : '(' ∉ description profile := by
  have hlabel := Kind.notMem_label (by decide : '('.isLower = false) profile.kind
  have hnumber := Text.notMem_toString (by decide : '(' ≠ '-') rfl
  have hclosing : '(' ∉ profile.minor.closing.toList := by
    cases profile.minor with
    | numeric number =>
        rw [Minor.closing_numeric, String.toList_append, List.mem_append, not_or]
        exact ⟨hnumber number, by decide⟩
    | offline => decide
  simp only [description, List.mem_append, List.mem_cons, not_or]
  exact ⟨hlabel, by decide, by decide, hnumber profile.major, by decide, hclosing⟩

variable {first second : Profile}

theorem of_description_eq (hsame : description first = description second) :
    first.kind.label = second.kind.label ∧ first.major = second.major ∧
      first.minor = second.minor := by
  obtain ⟨hlabel, hversion⟩ := Text.append_separator_inj
    (Kind.notMem_label (by decide) _) (Kind.notMem_label (by decide) _) hsame
  have hpoint := Text.notMem_toString (by decide : '.' ≠ '-') rfl
  obtain ⟨hmajor, hminor⟩ := Text.append_separator_inj (hpoint first.major) (hpoint second.major)
    (List.append_cancel_left hversion)
  exact ⟨String.toList_inj.mp hlabel, Text.toString_injective (String.toList_inj.mp hmajor),
    Minor.closing_injective (String.toList_inj.mp hminor)⟩

/-- A name that imitates a description does not hide the one behind it. -/
theorem of_headline_eq (hsame : headline first = headline second) :
    first.name = second.name ∧ first.kind.label = second.kind.label ∧
      first.major = second.major ∧ first.minor = second.minor := by
  have hlists : (first.name.toList ++ [' ']) ++ '(' :: description first =
      (second.name.toList ++ [' ']) ++ '(' :: description second := by
    simpa [toList_headline] using congrArg String.toList hsame
  obtain ⟨hname, hdescription⟩ := Text.append_last_separator_inj
    (parenthesis_notMem_description first) (parenthesis_notMem_description second) hlists
  exact ⟨String.toList_inj.mp (List.append_cancel_right hname), of_description_eq hdescription⟩

end Report

end ShaderRegistry
