import ShaderRegistry.Proofs.CanonicalName
import ShaderRegistry.Proofs.Configuration
import ShaderRegistry.Proofs.Text.LowerCase

/-! # The names of kinds

A stage is called by its short name or by its full name, and some stages spell both the same.
No name calls two stages, so it does not matter which of the names are searched first. All
names are written in lower case letters, and no other case of them is a name.
-/

namespace ShaderRegistry

namespace Kind

variable {kind first second : Kind} {name : String}

theorem shortName_ne_empty (kind : Kind) : kind.shortName ≠ "" := by
  cases kind <;> decide

theorem fullName?_ne_empty (kind : Kind) : kind.fullName? ≠ some "" := by
  cases kind <;> decide

theorem isCalled_iff :
    kind.IsCalled name ↔
      kind ≠ .invalid ∧ name ≠ "" ∧
        (name = kind.shortName ∨ name = kind.fullName?.getD "") := by
  constructor
  · rintro ⟨hstage, rfl | hfull⟩
    · exact ⟨hstage, kind.shortName_ne_empty, Or.inl rfl⟩
    · refine ⟨hstage, ?_, Or.inr (by rw [hfull]; rfl)⟩
      rintro rfl
      exact kind.fullName?_ne_empty hfull
  · rintro ⟨hstage, hname, hshort | hfull⟩
    · exact ⟨hstage, Or.inl hshort.symm⟩
    · refine ⟨hstage, Or.inr ?_⟩
      cases hsome : kind.fullName? with
      | none => exact absurd (by rw [hfull, hsome]; rfl) hname
      | some full => rw [hfull, hsome]; rfl

namespace IsCalled

theorem unique (hfirst : first.IsCalled name) (hsecond : second.IsCalled name) :
    first = second := by
  have hsame := (namedKind_of_isCalled hfirst).symm.trans (namedKind_of_isCalled hsecond)
  exact Except.ok.inj hsame

theorem isLower (hcalled : kind.IsCalled name) : ∀ char ∈ name.toList, char.isLower = true := by
  obtain ⟨-, rfl | hfull⟩ := hcalled
  · exact isLower_of_mem_shortName kind
  · exact isLower_of_fullName? hfull

end IsCalled

end Kind

/-- The kind found by one search or, failing that, by another. -/
def namedBy (search fallback : String → Kind) (name : String) : Except Refusal Kind :=
  let found := search name
  let kind := if found = .invalid then fallback name else found
  if kind = .invalid then .error (.unknownKind name) else .ok kind

theorem namedKind_eq_namedBy : namedKind = namedBy Kind.ofFullName Kind.ofShortName := rfl

/-- Searches that never find two kinds can change places. -/
theorem namedBy_comm {search fallback : String → Kind} {name : String}
    (hagree : search name ≠ .invalid → fallback name ≠ .invalid →
      search name = fallback name) :
    namedBy search fallback name = namedBy fallback search name := by
  by_cases hsearch : search name = .invalid
  · by_cases hfallback : fallback name = .invalid
    · simp [namedBy, hsearch, hfallback]
    · simp [namedBy, hsearch, hfallback]
  · by_cases hfallback : fallback name = .invalid
    · simp [namedBy, hsearch, hfallback]
    · simp [namedBy, hagree hsearch hfallback]

theorem ofShortName_first (name : String) :
    namedBy Kind.ofShortName Kind.ofFullName name = namedKind name := by
  rw [namedKind_eq_namedBy]
  apply namedBy_comm
  intro hshort hfull
  have hcalledShort : (Kind.ofShortName name).IsCalled name :=
    ⟨hshort, Or.inl (Kind.shortName_ofShortName hshort)⟩
  have hcalledFull : (Kind.ofFullName name).IsCalled name :=
    ⟨hfull, Or.inr (Kind.fullName?_ofFullName hfull)⟩
  exact hcalledShort.unique hcalledFull

theorem namedKind_eq_ok_iff {name : String} {kind : Kind} :
    namedKind name = .ok kind ↔ kind.IsCalled name := by
  refine ⟨?_, namedKind_of_isCalled⟩
  intro hnamed
  by_cases hknown : ∃ called : Kind, called.IsCalled name
  · obtain ⟨called, hcalled⟩ := hknown
    rw [namedKind_of_isCalled hcalled] at hnamed
    cases hnamed
    exact hcalled
  · rw [namedKind_of_forall_not (not_exists.mp hknown)] at hnamed
    cases hnamed

theorem namedKind_eq_error_iff {name : String} {refusal : Refusal} :
    namedKind name = .error refusal ↔
      (∀ kind : Kind, ¬kind.IsCalled name) ∧ refusal = .unknownKind name := by
  constructor
  · intro hrefused
    have hunknown : ∀ kind : Kind, ¬kind.IsCalled name := by
      intro kind hcalled
      rw [namedKind_of_isCalled hcalled] at hrefused
      cases hrefused
    rw [namedKind_of_forall_not hunknown] at hrefused
    cases hrefused
    exact ⟨hunknown, rfl⟩
  · rintro ⟨hunknown, rfl⟩
    exact namedKind_of_forall_not hunknown

/-- The named kind is the stage that the name calls, by its short or its full name, and a name
that calls none is refused and quoted. That goes for the names that are not the names of stages,
and for every text in which a character is no lower case letter, such as a name in another case.
No name calls two stages, and the short names might as well be searched first. -/
theorem namedKind_exact (name : String) :
    (∀ kind : Kind, namedKind name = .ok kind ↔
      kind ≠ .invalid ∧ name ≠ "" ∧
        (name = kind.shortName ∨ name = kind.fullName?.getD "")) ∧
    (∀ refusal : Refusal, namedKind name = .error refusal ↔
      (∀ kind : Kind, ¬kind.IsCalled name) ∧ refusal = .unknownKind name) ∧
    ((Refusal.unknownKind name).diagnostic.code.text = "UNKNOWN_KIND" ∧
      (Refusal.unknownKind name).diagnostic.message = "Unknown shader kind: " ++ name) ∧
    (name ∈ ["", "invalid", "library"] → namedKind name = .error (.unknownKind name)) ∧
    ((∃ char ∈ name.toList, char.isLower = false) →
      namedKind name = .error (.unknownKind name)) ∧
    (Text.lower name.toList ≠ name.toList → namedKind name = .error (.unknownKind name)) ∧
    (∀ first second : Kind, first.IsCalled name → second.IsCalled name → first = second) ∧
    namedBy Kind.ofShortName Kind.ofFullName name = namedKind name := by
  refine ⟨?_, fun _ => namedKind_eq_error_iff, ⟨rfl, rfl⟩, ?_, ?_, ?_,
    fun _ _ => Kind.IsCalled.unique, ofShortName_first name⟩
  · intro kind
    rw [namedKind_eq_ok_iff, Kind.isCalled_iff]
  · intro hlisted
    simp only [List.mem_cons, List.not_mem_nil, or_false] at hlisted
    rcases hlisted with rfl | rfl | rfl
    · rfl
    · rfl
    · rfl
  · rintro ⟨char, hmem, hother⟩
    apply namedKind_of_forall_not
    intro kind hcalled
    rw [hcalled.isLower char hmem] at hother
    cases hother
  · intro hlower
    apply namedKind_of_forall_not
    intro kind hcalled
    exact hlower (Text.lower_eq_self hcalled.isLower)

/-- A name with a capital or a long s is refused, and a name that is both short and full calls a
single kind. -/
theorem namedKind_of_variants :
    ("" ∈ ["", "invalid", "library"] ∧ namedKind "" = .error (.unknownKind "")) ∧
    (Text.lower "Pixel".toList ≠ "Pixel".toList ∧
      namedKind "Pixel" = .error (.unknownKind "Pixel")) ∧
    ((∃ char ∈ "p\u017f".toList, char.isLower = false) ∧
      namedKind "p\u017f" = .error (.unknownKind "p\u017f")) ∧
    Kind.IsCalled .anyHit "anyhit" ∧
      (∀ second : Kind, second.IsCalled "anyhit" → Kind.anyHit = second) ∧
      namedKind "anyhit" = .ok .anyHit := by
  have hlisted : "" ∈ ["", "invalid", "library"] := List.mem_cons_self
  have hcapital : Text.lower "Pixel".toList ≠ "Pixel".toList := by decide
  have hlong : ∃ char ∈ "p\u017f".toList, char.isLower = false :=
    ⟨'\u017f', by decide, by decide⟩
  have hcalled : Kind.IsCalled .anyHit "anyhit" := ⟨by decide, Or.inl rfl⟩
  obtain ⟨-, -, -, hempty, -⟩ := namedKind_exact ""
  obtain ⟨-, -, -, -, -, hpixel, -⟩ := namedKind_exact "Pixel"
  obtain ⟨-, -, -, -, hspelled, -⟩ := namedKind_exact "p\u017f"
  obtain ⟨hnamed, -, -, -, -, -, hunique, -⟩ := namedKind_exact "anyhit"
  exact ⟨⟨hlisted, hempty hlisted⟩, ⟨hcapital, hpixel hcapital⟩, ⟨hlong, hspelled hlong⟩,
    hcalled, fun second => hunique _ second hcalled,
    (hnamed .anyHit).mpr (Kind.isCalled_iff.mp hcalled)⟩

end ShaderRegistry
