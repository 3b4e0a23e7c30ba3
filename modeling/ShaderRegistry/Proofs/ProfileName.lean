import ShaderRegistry.Proofs.CanonicalName
import ShaderRegistry.ProfileName

/-! # What reading a profile name accepts

A name that is read is the canonical name of the target read from it. It has a fixed form,
and nothing can be put before or behind it that yields a name again.
-/

namespace ShaderRegistry.ProfileName

/-- The form of profile names: a stage in lower case, a digit, and a digit or an x, each of
the latter two behind a single underscore. -/
def HasForm (name : List Char) : Prop :=
  ∃ (stage : List Char) (major minor : Char),
    name = stage ++ ['_', major, '_', minor] ∧
      (stage ≠ [] ∧ ∀ char ∈ stage, char.isLower = true) ∧
      major.isDigit = true ∧ (minor.isDigit = true ∨ minor = 'x')

/-- The two characters that give the version of a target. -/
structure Spells (major minor : Char) (target : Target) : Prop where
  toList_major : (toString target.major).toList = [major]
  isDigit_major : major.isDigit = true
  toList_minor : target.minor.text.toList = [minor]
  isDigit_or_eq_x : minor.isDigit = true ∨ minor = 'x'

theorem eq_append_of_stage? {name rest : List Char} {kind : Kind}
    (hstage : stage? name = some (kind, rest)) :
    name = kind.shortName.toList ++ '_' :: rest := by
  obtain ⟨candidate, _, hmatch⟩ := List.exists_of_findSome?_eq_some hstage
  obtain ⟨tail, htail, hpair⟩ := Option.map_eq_some_iff.mp hmatch
  cases hpair
  rw [← List.append_eq_of_isPrefixOf?_eq_some htail, List.append_assoc]
  rfl

theorem toList_major {char : Char} {major : Int} (hmajor : major? char = some major) :
    (toString major).toList = [char] ∧ char.isDigit = true := by
  unfold major? at hmajor
  split at hmajor <;> cases hmajor <;> decide

theorem toList_laterMinor {char : Char} {number : Int} (hminor : laterMinor? char = some number) :
    (toString number).toList = [char] ∧ char.isDigit = true := by
  unfold laterMinor? at hminor
  split at hminor <;> cases hminor <;> decide

theorem toList_minor {kind : Kind} {major : Int} {char : Char} {minor : Minor}
    (hminor : minor? kind major char = some minor) :
    minor.text.toList = [char] ∧ (char.isDigit = true ∨ char = 'x') := by
  unfold minor? at hminor
  split at hminor
  next hzero =>
    cases hminor
    subst hzero
    decide
  next =>
    split at hminor
    next hone =>
      cases hminor
      subst hone
      decide
    next =>
      split at hminor
      next hletter =>
        split at hminor
        · cases hminor
          exact ⟨hletter ▸ rfl, Or.inr hletter⟩
        · cases hminor
      next =>
        split at hminor
        · obtain ⟨number, hnumber, rfl⟩ := Option.map_eq_some_iff.mp hminor
          obtain ⟨htext, hdigit⟩ := toList_laterMinor hnumber
          exact ⟨htext, Or.inl hdigit⟩
        · cases hminor

theorem of_version? {kind : Kind} {version : List Char} {target : Target}
    (hversion : version? kind version = some target) :
    target.kind = kind ∧
      ∃ major minor, version = [major, '_', minor] ∧ Spells major minor target := by
  unfold version? at hversion
  split at hversion
  next majorChar minorChar =>
    obtain ⟨major, hmajor, hrest⟩ := Option.bind_eq_some_iff.mp hversion
    obtain ⟨minor, hminor, hpure⟩ := Option.bind_eq_some_iff.mp hrest
    cases hpure
    obtain ⟨hmajorText, hmajorDigit⟩ := toList_major hmajor
    obtain ⟨hminorText, hminorChar⟩ := toList_minor hminor
    exact ⟨rfl, majorChar, minorChar, rfl, hmajorText, hmajorDigit, hminorText, hminorChar⟩
  next => cases hversion

/-- The parts in which a name is read are the parts of the canonical name of the target. -/
theorem of_target? {name : String} {target : Target} (hread : target? name = some target) :
    target.kind ∈ Kind.profiled ∧
      ∃ major minor, name.toList = target.kind.shortName.toList ++ ['_', major, '_', minor] ∧
        Spells major minor target := by
  obtain ⟨⟨kind, version⟩, hstage, hversion⟩ := Option.bind_eq_some_iff.mp hread
  obtain ⟨rfl, major, minor, rfl, hspells⟩ := of_version? hversion
  exact ⟨mem_profiled_of_stage? hstage, major, minor, eq_append_of_stage? hstage, hspells⟩

theorem canonicalName_of_target? {name : String} {target : Target}
    (hread : target? name = some target) : target.canonicalName = name := by
  obtain ⟨-, major, minor, hname, hspells⟩ := of_target? hread
  apply String.toList_inj.mp
  rw [hname, Target.toList_canonicalName, hspells.toList_major, hspells.toList_minor]
  rfl

theorem hasForm_of_target? {name : String} {target : Target}
    (hread : target? name = some target) : HasForm name.toList := by
  obtain ⟨-, major, minor, hname, hspells⟩ := of_target? hread
  have hstage := And.intro target.kind.shortName_ne_nil target.kind.isLower_of_mem_shortName
  exact ⟨_, major, minor, hname, hstage, hspells.isDigit_major, hspells.isDigit_or_eq_x⟩

theorem Spells.count_underscore {major minor : Char} {target : Target}
    (hspells : Spells major minor target) : ['_', major, '_', minor].count '_' = 2 := by
  have hmajor : major ≠ '_' := by
    rintro rfl
    exact absurd hspells.isDigit_major (by decide)
  have hminor : minor ≠ '_' := by
    rintro rfl
    exact absurd hspells.isDigit_or_eq_x (by decide)
  simp [hmajor, hminor]

theorem count_underscore_of_target? {name : String} {target : Target}
    (hread : target? name = some target) : name.toList.count '_' = 2 := by
  obtain ⟨-, major, minor, hname, hspells⟩ := of_target? hread
  rw [hname, List.count_append, hspells.count_underscore,
    List.count_eq_zero.mpr (Kind.underscore_notMem_shortName _)]

/-- No stage of a profile name ends in the name of another one. -/
theorem eq_of_shortName_isSuffix : ∀ first ∈ Kind.profiled, ∀ second ∈ Kind.profiled,
    first.shortName.toList <:+ second.shortName.toList → first = second := by
  decide

/-- A name inside another name is all of it: both have two underscores, so that the version
leaves no room behind it and the stage none before it. -/
theorem eq_nil_of_target?_append {inner outer : String} {first second : Target}
    {front back : List Char} (hinner : target? inner = some first)
    (houter : target? outer = some second)
    (hparts : outer.toList = front ++ inner.toList ++ back) : front = [] ∧ back = [] := by
  -- The inner name uses up the underscores of the outer one.
  have hfront : '_' ∉ front := by
    have hcount := count_underscore_of_target? houter
    rw [hparts, List.count_append, List.count_append, count_underscore_of_target? hinner] at hcount
    exact List.count_eq_zero.mp (by omega)
  obtain ⟨hfirst, major, minor, hinnerName, -⟩ := of_target? hinner
  obtain ⟨hsecond, majorOut, minorOut, houterName, -⟩ := of_target? houter
  rw [houterName, hinnerName] at hparts
  have hstage : '_' ∉ front ++ first.kind.shortName.toList := by
    rw [List.mem_append, not_or]
    exact ⟨hfront, Kind.underscore_notMem_shortName _⟩
  have hcut : second.kind.shortName.toList ++ '_' :: [majorOut, '_', minorOut] =
      (front ++ first.kind.shortName.toList) ++ '_' :: ([major, '_', minor] ++ back) := by
    simpa using hparts
  obtain ⟨hstages, hversions⟩ :=
    Text.append_separator_inj (Kind.underscore_notMem_shortName _) hstage hcut
  constructor
  · have hkinds := eq_of_shortName_isSuffix _ hfirst _ hsecond ⟨front, hstages.symm⟩
    rw [hkinds] at hstages
    exact List.append_left_eq_self.mp hstages.symm
  · have hlength := congrArg List.length hversions
    simp only [List.length_append, List.length_cons, List.length_nil] at hlength
    exact List.eq_nil_of_length_eq_zero (by omega)

end ShaderRegistry.ProfileName
