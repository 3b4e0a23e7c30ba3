import ShaderRegistry.Table.Fault

/-! # Accepted tables

The check compares the key of an entry with that of the entry just before it and with no
other. In a table that it accepts the keys nevertheless ascend over any distance, since
each entry that passes hands its key on as a bound for all that follow.
-/

namespace ShaderRegistry.Table

/-- The keys of earlier entries lie below those of all later ones. -/
def Ascending (entries : List Profile) : Prop :=
  entries.Pairwise fun earlier later => earlier.key < later.key

/-- What the check needs of entries that follow `previous`. -/
structure Admissible (previous : Option Profile) (entries : List Profile) : Prop where
  sound : ∀ entry ∈ entries, entryFault? entry = none
  above : ∀ before ∈ previous, ∀ entry ∈ entries, before.key < entry.key
  ascending : Ascending entries

namespace Admissible

theorem nil (previous : Option Profile) : Admissible previous [] where
  sound := fun _ hentry => absurd hentry List.not_mem_nil
  above := fun _ _ _ hentry => absurd hentry List.not_mem_nil
  ascending := List.Pairwise.nil

/-- One step of the check: an entry that passes becomes the bound of the rest. -/
theorem cons_iff {previous : Option Profile} {entry : Profile} {rest : List Profile} :
    Admissible previous (entry :: rest) ↔
      entryFault? entry = none ∧ (∀ before ∈ previous, before.key < entry.key) ∧
        Admissible (some entry) rest := by
  constructor
  · intro hall
    obtain ⟨hbelow, hrest⟩ := List.pairwise_cons.mp hall.ascending
    refine ⟨hall.sound entry List.mem_cons_self, ?_, ?_, ?_, hrest⟩
    · intro before hbefore
      exact hall.above before hbefore entry List.mem_cons_self
    · intro later hlater
      exact hall.sound later (List.mem_cons_of_mem _ hlater)
    · intro before hbefore later hlater
      obtain rfl := Option.mem_some_iff.mp hbefore
      exact hbelow later hlater
  · rintro ⟨hentry, hprevious, hrest⟩
    have hbelow : ∀ later ∈ rest, entry.key < later.key :=
      hrest.above entry (Option.mem_some_self entry)
    refine ⟨?_, ?_, List.pairwise_cons.mpr ⟨hbelow, hrest.ascending⟩⟩
    · intro later hlater
      rcases List.mem_cons.mp hlater with rfl | hlater
      · exact hentry
      · exact hrest.sound later hlater
    · intro before hbefore later hlater
      have hentryAbove := hprevious before hbefore
      -- What was known of the entry alone carries over to all that lie above it.
      rcases List.mem_cons.mp hlater with rfl | hlater
      · exact hentryAbove
      · exact Int.lt_trans hentryAbove (hbelow later hlater)

end Admissible

theorem entriesFault?_cons (previous : Option Profile) (entry : Profile) (rest : List Profile) :
    entriesFault? previous (entry :: rest) =
      (entryFault? entry).or
        ((previous.bind (orderFault? · entry)).or (entriesFault? (some entry) rest)) := by
  simp only [entriesFault?, Option.orElse_eq_orElse, Option.orElse_eq_or]

theorem bind_orderFault?_eq_none_iff {previous : Option Profile} {entry : Profile} :
    previous.bind (orderFault? · entry) = none ↔ ∀ before ∈ previous, before.key < entry.key := by
  cases previous with
  | none => simp
  | some before => simp [orderFault?_eq_none_iff]

theorem entriesFault?_cons_eq_none_iff {previous : Option Profile} {entry : Profile}
    {rest : List Profile} :
    entriesFault? previous (entry :: rest) = none ↔
      entryFault? entry = none ∧ (∀ before ∈ previous, before.key < entry.key) ∧
        entriesFault? (some entry) rest = none := by
  rw [entriesFault?_cons, Option.or_eq_none_iff, Option.or_eq_none_iff,
    bind_orderFault?_eq_none_iff]

/-- Where the check of entries stops: at the first one by itself, at its order, or later. -/
theorem entriesFault?_cons_eq_some_iff {previous : Option Profile} {entry : Profile}
    {rest : List Profile} {fault : Fault} :
    entriesFault? previous (entry :: rest) = some fault ↔
      entryFault? entry = some fault ∨
        entryFault? entry = none ∧
          (previous.bind (orderFault? · entry) = some fault ∨
            (∀ before ∈ previous, before.key < entry.key) ∧
              entriesFault? (some entry) rest = some fault) := by
  rw [entriesFault?_cons, Option.or_eq_some_iff, Option.or_eq_some_iff,
    bind_orderFault?_eq_none_iff]

/-- The check of entries from the front accepts exactly the admissible ones. -/
theorem entriesFault?_eq_none_iff {previous : Option Profile} {entries : List Profile} :
    entriesFault? previous entries = none ↔ Admissible previous entries := by
  induction entries generalizing previous with
  | nil => exact iff_of_true rfl (Admissible.nil previous)
  | cons entry rest ih =>
      rw [entriesFault?_cons_eq_none_iff, Admissible.cons_iff, ih]

/-- A table is accepted exactly when the invalid profile closes it and the entries before
that are sound and ascend. -/
theorem fault?_eq_none_iff {table : Table} :
    table.fault? = none ↔
      table.getLast? = some .invalid ∧
        (∀ entry ∈ table.dropLast, entryFault? entry = none) ∧ Ascending table.dropLast := by
  unfold fault?
  cases hlast : table.getLast? with
  | none => simp
  | some last =>
      simp only [Option.some.injEq]
      by_cases hclosed : last = .invalid
      · rw [if_pos hclosed, entriesFault?_eq_none_iff]
        constructor
        · intro hentries
          exact ⟨hclosed, hentries.sound, hentries.ascending⟩
        · rintro ⟨-, hsound, hascending⟩
          exact ⟨hsound, fun _ hbefore => absurd hbefore (Option.not_mem_none _), hascending⟩
      · simp [hclosed]

/-- What is asked of an entry wherever it stands. -/
structure Sound (entry : Profile) : Prop where
  kind_ne_invalid : entry.kind ≠ .invalid
  library_of_offline : entry.minor = .offline → entry.kind = .library
  name_eq : entry.name = entry.canonicalName

/-- A sound entry, with the offline minor where it belongs. -/
def offlineLibrary : Profile :=
  { Profile.invalid with toTarget := ⟨.library, 6, .offline⟩, name := "lib_6_x" }

/-- What is asked of a table, with nothing said of how it is checked. -/
structure WellFormed (table : Table) : Prop where
  closed : table.getLast? = some .invalid
  sound : ∀ entry ∈ table.dropLast, Sound entry
  ascending : Ascending table.dropLast

theorem sound_iff {entry : Profile} : Sound entry ↔ entryFault? entry = none := by
  rw [entryFault?_eq_none_iff]
  constructor
  · rintro ⟨hkind, hminor, hname⟩
    exact ⟨hkind, hminor, hname⟩
  · rintro ⟨hkind, hminor, hname⟩
    exact ⟨hkind, hminor, hname⟩

theorem wellFormed_iff {table : Table} : table.WellFormed ↔ table.fault? = none := by
  rw [fault?_eq_none_iff]
  simp only [← sound_iff]
  constructor
  · rintro ⟨hclosed, hsound, hascending⟩
    exact ⟨hclosed, hsound, hascending⟩
  · rintro ⟨hclosed, hsound, hascending⟩
    exact ⟨hclosed, hsound, hascending⟩

end ShaderRegistry.Table
