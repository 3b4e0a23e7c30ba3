import ShaderRegistry.Proofs.Table.Accepted

/-! # The first complaint about a table

Each check of an entry has its own complaint, whatever else is wrong. A refused table is
refused with the complaint that comes first: at the lowest position with any, and there from
the check that is made first. Entries further back have no say in it.
-/

namespace ShaderRegistry.Table

/-- The checks of an entry, in the order in which they are made. -/
inductive Check where
  | kind
  | offline
  | name
  | order

namespace Check

def rank : Check → Nat
  | kind => 0
  | offline => 1
  | name => 2
  | order => 3

theorem rank_injective {first second : Check} (hsame : first.rank = second.rank) :
    first = second := by
  cases first <;> cases second <;> first | rfl | cases hsame

end Check

/-- What a check has against an entry that stands just behind `previous`. -/
inductive Complaint (previous : Option Profile) (entry : Profile) : Check → String → Prop
  | kind (hkind : entry.kind = .invalid) :
      Complaint previous entry .kind ("Invalid kind before the end of the table: " ++ entry.name)
  | offline (hminor : entry.minor = .offline) (hkind : entry.kind ≠ .library) :
      Complaint previous entry .offline
        ("Offline minor is only allowed for library profiles: " ++ entry.name)
  | name (hname : entry.name ≠ entry.canonicalName) :
      Complaint previous entry .name
        ("Profile " ++ entry.name ++ " should be named " ++ entry.canonicalName)
  | order {before : Profile} (hbefore : before ∈ previous) (horder : entry.key ≤ before.key) :
      Complaint previous entry .order
        ("Shader models out of order: " ++ before.name ++ " before " ++ entry.name)

namespace Complaint

variable {previous : Option Profile} {entry : Profile} {check : Check} {text other : String}

theorem text_unique (hfirst : Complaint previous entry check text)
    (hsecond : Complaint previous entry check other) : text = other := by
  cases hfirst with
  | kind | offline | name => cases hsecond; rfl
  | order hbefore =>
      cases hsecond with
      | order hother => rw [Option.mem_unique hbefore hother]

/-- The first three checks complain about unsound entries only. -/
theorem eq_order_of_sound (hcomplaint : Complaint previous entry check text)
    (hsound : Sound entry) : check = .order := by
  cases hcomplaint with
  | kind hkind => exact absurd hkind hsound.kind_ne_invalid
  | offline hminor hkind => exact absurd (hsound.library_of_offline hminor) hkind
  | name hname => exact absurd hsound.name_eq hname
  | order => rfl

/-- A sound entry with a key above the one before it draws no complaint. -/
theorem not_of_sound (hsound : Sound entry) (habove : ∀ before ∈ previous, before.key < entry.key) :
    ¬Complaint previous entry check text := by
  intro hcomplaint
  obtain rfl := hcomplaint.eq_order_of_sound hsound
  cases hcomplaint with
  | order hbefore horder => exact absurd (habove _ hbefore) (Int.not_lt.mpr horder)

/-- The fault of an entry by itself is the first complaint about it. -/
theorem of_entryFault? {fault : Fault} (hfault : entryFault? entry = some fault) :
    ∃ check, Complaint previous entry check fault.message ∧
      ∀ later text, Complaint previous entry later text → check.rank ≤ later.rank := by
  unfold entryFault? at hfault
  split at hfault
  next hkind =>
    cases hfault
    exact ⟨.kind, .kind hkind, fun _ _ _ => Nat.zero_le _⟩
  next hkind =>
    split at hfault
    next hoffline =>
      cases hfault
      refine ⟨.offline, .offline hoffline.1 hoffline.2, ?_⟩
      intro later text hlater
      cases hlater with
      | kind hinvalid => exact absurd hinvalid hkind
      | offline | name | order => decide
    next hoffline =>
      split at hfault
      next hname =>
        cases hfault
        refine ⟨.name, .name hname, ?_⟩
        intro later text hlater
        cases hlater with
        | kind hinvalid => exact absurd hinvalid hkind
        | offline hminor hother => exact absurd ⟨hminor, hother⟩ hoffline
        | name | order => decide
      next => cases hfault

theorem of_orderFault? {fault : Fault}
    (hfault : previous.bind (orderFault? · entry) = some fault) :
    Complaint previous entry .order fault.message := by
  obtain ⟨before, hbefore, horder⟩ := Option.bind_eq_some_iff.mp hfault
  unfold orderFault? at horder
  split at horder
  next hkeys =>
    cases horder
    exact .order hbefore hkeys
  next => cases horder

end Complaint

/-- The entry just before a position, in entries that themselves follow `previous`. -/
def predecessor? (previous : Option Profile) (entries : List Profile) : Nat → Option Profile
  | 0 => previous
  | position + 1 => entries[position]?

/-- What a check has against the entry at a position. -/
def ComplaintAt (previous : Option Profile) (entries : List Profile) (position : Nat)
    (check : Check) (text : String) : Prop :=
  ∃ entry ∈ entries[position]?,
    Complaint (predecessor? previous entries position) entry check text

namespace ComplaintAt

variable {previous : Option Profile} {entry : Profile} {rest : List Profile}
  {position : Nat} {check : Check} {text : String}

theorem cons_zero_iff :
    ComplaintAt previous (entry :: rest) 0 check text ↔ Complaint previous entry check text := by
  simp [ComplaintAt, predecessor?]

/-- Behind the first entry the positions are those of the rest, which follow that entry. -/
theorem cons_succ_iff :
    ComplaintAt previous (entry :: rest) (position + 1) check text ↔
      ComplaintAt (some entry) rest position check text := by
  cases position <;> simp [ComplaintAt, predecessor?]

end ComplaintAt

/-- No complaint comes before this one, neither at a lower position nor at the same one from
a check made earlier. -/
def FirstComplaint (previous : Option Profile) (entries : List Profile) (text : String) : Prop :=
  ∃ position check, ComplaintAt previous entries position check text ∧
    ∀ other later message, ComplaintAt previous entries other later message →
      position < other ∨ position = other ∧ check.rank ≤ later.rank

namespace FirstComplaint

variable {previous : Option Profile} {entry : Profile} {entries rest : List Profile}
  {text : String}

theorem unique {other : String} (hfirst : FirstComplaint previous entries text)
    (hsecond : FirstComplaint previous entries other) : text = other := by
  obtain ⟨position, check, hhere, hleast⟩ := hfirst
  obtain ⟨place, trial, hthere, hminimal⟩ := hsecond
  have hbelow := hleast _ _ _ hthere
  have habove := hminimal _ _ _ hhere
  -- Each of the two precedes the other, so that they agree in position and check.
  obtain rfl : position = place := by omega
  obtain rfl : check = trial := Check.rank_injective (by omega)
  obtain ⟨entry, hentry, hcomplaint⟩ := hhere
  obtain ⟨same, hsame, hother⟩ := hthere
  obtain rfl := Option.mem_unique hentry hsame
  exact hcomplaint.text_unique hother

/-- A complaint about the first entry precedes all about the others. -/
theorem of_head {check : Check} (hcomplaint : Complaint previous entry check text)
    (hleast : ∀ later message, Complaint previous entry later message → check.rank ≤ later.rank) :
    FirstComplaint previous (entry :: rest) text := by
  refine ⟨0, check, ComplaintAt.cons_zero_iff.mpr hcomplaint, ?_⟩
  intro other later message hother
  cases other with
  | zero => exact Or.inr ⟨rfl, hleast _ _ (ComplaintAt.cons_zero_iff.mp hother)⟩
  | succ other => exact Or.inl (Nat.zero_lt_succ other)

/-- Behind an entry without complaints the first one is that of the rest. -/
theorem of_tail (hquiet : ∀ check message, ¬Complaint previous entry check message)
    (hrest : FirstComplaint (some entry) rest text) :
    FirstComplaint previous (entry :: rest) text := by
  obtain ⟨position, check, hhere, hleast⟩ := hrest
  refine ⟨position + 1, check, ComplaintAt.cons_succ_iff.mpr hhere, ?_⟩
  intro other later message hother
  cases other with
  | zero => exact absurd (ComplaintAt.cons_zero_iff.mp hother) (hquiet later message)
  | succ other =>
      have hnext := hleast _ _ _ (ComplaintAt.cons_succ_iff.mp hother)
      omega

end FirstComplaint

/-- The fault that the check of entries answers with is their first complaint. -/
theorem firstComplaint_of_entriesFault? {previous : Option Profile} {entries : List Profile}
    {fault : Fault} (hfault : entriesFault? previous entries = some fault) :
    FirstComplaint previous entries fault.message := by
  induction entries generalizing previous with
  | nil => cases hfault
  | cons entry rest ih =>
      rcases entriesFault?_cons_eq_some_iff.mp hfault with
        hentry | ⟨hentry, horder | ⟨habove, hrest⟩⟩
      · obtain ⟨check, hcomplaint, hleast⟩ := Complaint.of_entryFault? hentry
        exact .of_head hcomplaint hleast
      · -- The order is checked last, so that nothing else can be wrong with the entry.
        refine .of_head (.of_orderFault? horder) ?_
        intro later message hlater
        obtain rfl := hlater.eq_order_of_sound (sound_iff.mpr hentry)
        exact Nat.le_refl _
      · refine .of_tail ?_ (ih hrest)
        intro check message
        exact Complaint.not_of_sound (sound_iff.mpr hentry) habove

/-- Entries that pass the check draw no complaint at any position. -/
theorem not_complaintAt_of_entriesFault? {previous : Option Profile} {entries : List Profile}
    (hpassed : entriesFault? previous entries = none) (position : Nat) (check : Check)
    (text : String) : ¬ComplaintAt previous entries position check text := by
  induction entries generalizing previous position with
  | nil =>
      rintro ⟨entry, hentry, -⟩
      cases hentry
  | cons entry rest ih =>
      obtain ⟨hentry, habove, hrest⟩ := entriesFault?_cons_eq_none_iff.mp hpassed
      cases position with
      | zero =>
          rw [ComplaintAt.cons_zero_iff]
          exact Complaint.not_of_sound (sound_iff.mpr hentry) habove
      | succ position =>
          rw [ComplaintAt.cons_succ_iff]
          exact ih hrest position

theorem message_entriesFault?_eq_some_iff {previous : Option Profile} {entries : List Profile}
    {text : String} :
    (entriesFault? previous entries).map Fault.message = some text ↔
      FirstComplaint previous entries text := by
  constructor
  · intro hmessage
    obtain ⟨fault, hfault, rfl⟩ := Option.map_eq_some_iff.mp hmessage
    exact firstComplaint_of_entriesFault? hfault
  · intro hfirst
    cases hfault : entriesFault? previous entries with
    | none =>
        obtain ⟨position, check, hcomplaint, -⟩ := hfirst
        exact absurd hcomplaint (not_complaintAt_of_entriesFault? hfault position check text)
    | some fault =>
        have hsame := (firstComplaint_of_entriesFault? hfault).unique hfirst
        rw [Option.map_some, hsame]

/-- Entries further back change nothing about a fault that was found. -/
theorem entriesFault?_append_of_eq_some {previous : Option Profile} {front : List Profile}
    {fault : Fault} (hfault : entriesFault? previous front = some fault) (rest : List Profile) :
    entriesFault? previous (front ++ rest) = some fault := by
  induction front generalizing previous with
  | nil => cases hfault
  | cons entry front ih =>
      rw [List.cons_append, entriesFault?_cons_eq_some_iff]
      rcases entriesFault?_cons_eq_some_iff.mp hfault with
        hentry | ⟨hentry, horder | ⟨habove, hrest⟩⟩
      · exact Or.inl hentry
      · exact Or.inr ⟨hentry, Or.inl horder⟩
      · exact Or.inr ⟨hentry, Or.inr ⟨habove, ih hrest⟩⟩

/-- A table is accepted exactly when it is well formed. Otherwise it is refused for being
empty; else for its last profile, whatever stands before that; else with the first complaint
about its entries, which is the same whatever follows the entry complained about. -/
theorem fault?_eq_first_complaint (table : Table) :
    (table.fault? = none ↔ table.WellFormed) ∧
      (table = [] → table.fault?.map Fault.message = some "Shader model table is empty") ∧
      (∀ last ∈ table.getLast?, last ≠ .invalid → table.fault?.map Fault.message =
        some ("Last shader model must be the invalid sentinel, got " ++ last.name)) ∧
      (table.getLast? = some .invalid → ∀ text,
        table.fault?.map Fault.message = some text ↔ FirstComplaint none table.dropLast text) ∧
      (∀ front rest text, table = front ++ rest ++ [.invalid] → FirstComplaint none front text →
        table.fault?.map Fault.message = some text) := by
  refine ⟨wellFormed_iff.symm, ?_, ?_, ?_, ?_⟩
  · rintro rfl
    rfl
  · intro last hlast hopen
    rw [fault?_of_unclosed hlast hopen]
    rfl
  · intro hclosed text
    rw [fault?_of_closed hclosed]
    exact message_entriesFault?_eq_some_iff
  · rintro front rest text rfl hfirst
    obtain ⟨fault, hfault, rfl⟩ :=
      Option.map_eq_some_iff.mp (message_entriesFault?_eq_some_iff.mpr hfirst)
    rw [fault?_append_invalid, entriesFault?_append_of_eq_some hfault, Option.map_some]

/-- Offline outside of a library, misnamed, and with a key below that of the library. -/
def offlinePixel : Profile :=
  { Profile.invalid with toTarget := ⟨.pixel, 6, .offline⟩, name := "ps" }

/-- Of the faults of the second entry the offline minor is named, and the third entry, which
is of no kind, is not reached. -/
theorem message_of_several_faults :
    Table.fault? [offlineLibrary, offlinePixel, .invalid, .invalid] ≠ none ∧
      (Table.fault? [offlineLibrary, offlinePixel, .invalid, .invalid]).map Fault.message =
        some "Offline minor is only allowed for library profiles: ps" := by
  have hsound : Sound offlineLibrary := ⟨by decide, fun _ => rfl, by decide +kernel⟩
  have hfirst : FirstComplaint none [offlineLibrary, offlinePixel]
      "Offline minor is only allowed for library profiles: ps" := by
    refine .of_tail (fun _ _ => Complaint.not_of_sound hsound (by simp)) ?_
    refine .of_head (.offline rfl (by decide)) ?_
    intro later message hlater
    cases hlater with
    | kind hkind => cases hkind
    | offline | name | order => decide
  have hmessage := (fault?_eq_first_complaint
    [offlineLibrary, offlinePixel, .invalid, .invalid]).2.2.2.2 _ [.invalid] _ rfl hfirst
  refine ⟨?_, hmessage⟩
  intro haccepted
  rw [haccepted] at hmessage
  cases hmessage

end ShaderRegistry.Table
