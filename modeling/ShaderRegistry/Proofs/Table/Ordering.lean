import Mathlib.Data.List.Nodup
import ShaderRegistry.Proofs.Table.Accepted
import ShaderRegistry.Table.Edit

/-! # The order of an accepted table

Profiles with distinct keys can be put into one table and no more, since ascending keys give
each entry its place and only the invalid profile closes a table. A table that is rearranged
in any way is therefore refused.
-/

namespace ShaderRegistry.Table

theorem wellFormed_append_invalid_iff {entries : List Profile} :
    WellFormed (entries ++ [.invalid]) ↔
      (∀ entry ∈ entries, Sound entry) ∧ Ascending entries := by
  constructor
  · intro htable
    have hsound := htable.sound
    have hascending := htable.ascending
    rw [List.dropLast_concat] at hsound hascending
    exact ⟨hsound, hascending⟩
  · rintro ⟨hsound, hascending⟩
    refine ⟨List.getLast?_concat, ?_, ?_⟩
    · rwa [List.dropLast_concat]
    · rwa [List.dropLast_concat]

theorem Sound.ne_invalid {entry : Profile} (hsound : Sound entry) : entry ≠ .invalid := by
  rintro rfl
  exact hsound.kind_ne_invalid rfl

namespace Ascending

theorem nodup_keys {entries : List Profile} (hascending : Ascending entries) :
    (entries.map fun entry => entry.key).Nodup := by
  apply List.pairwise_map.mpr
  exact List.Pairwise.imp (fun hlt => Int.ne_of_lt hlt) hascending

theorem of_sorted {entries : List Profile} (hkeys : (entries.map fun entry => entry.key).Nodup)
    (hsorted : entries.Pairwise fun earlier later => earlier.key ≤ later.key) :
    Ascending entries := by
  refine List.Pairwise.imp ?_ (hsorted.and (List.pairwise_map.mp hkeys))
  rintro earlier later ⟨hle, hne⟩
  exact Int.lt_iff_le_and_ne.mpr ⟨hle, hne⟩

theorem eq_of_perm {first second : List Profile} (hfirst : Ascending first)
    (hsecond : Ascending second) (hperm : first.Perm second) : first = second := by
  refine List.Perm.eq_of_pairwise ?_ hfirst hsecond hperm
  intro left right _ _ hlt hgt
  exact absurd (Int.lt_trans hlt hgt) (Int.lt_irrefl _)

/-- Sorting puts entries of distinct keys into ascending order. -/
theorem sort {entries : List Profile} (hkeys : (entries.map fun entry => entry.key).Nodup) :
    Ascending (Table.sort entries) := by
  have hperm := (sort_perm entries).map fun entry => entry.key
  exact of_sorted (hperm.nodup_iff.mpr hkeys) (sort_sorted entries)

end Ascending

namespace WellFormed

variable {table : Table}

theorem dropLast_append (htable : table.WellFormed) : table.dropLast ++ [.invalid] = table :=
  List.dropLast_append_getLast? _ htable.closed

theorem eq_of_perm {other : Table} (htable : table.WellFormed) (hother : other.WellFormed)
    (hperm : table.Perm other) : table = other := by
  rw [← htable.dropLast_append, ← hother.dropLast_append] at hperm ⊢
  have hentries := (List.perm_append_right_iff _).mp hperm
  rw [htable.ascending.eq_of_perm hother.ascending hentries]

/-- The closing profile is not an entry, and no two entries have a key in common. -/
theorem nodup (htable : table.WellFormed) : table.Nodup := by
  rw [← htable.dropLast_append, List.nodup_append]
  refine ⟨htable.ascending.nodup_keys.of_map, List.nodup_singleton _, ?_⟩
  intro entry hentry last hlast
  rw [List.mem_singleton.mp hlast]
  exact (htable.sound entry hentry).ne_invalid

end WellFormed

theorem swap_perm (table : Table) (first second : Nat) : (table.swap first second).Perm table := by
  unfold swap
  split
  next left right hleft hright =>
    obtain ⟨hfirst, rfl⟩ := List.getElem?_eq_some_iff.mp hleft
    obtain ⟨hsecond, rfl⟩ := List.getElem?_eq_some_iff.mp hright
    exact List.set_set_perm hfirst hsecond
  next => exact .refl _

theorem swap_ne {table : Table} (hnodup : table.Nodup) {first second : Nat}
    (hfirst : first < table.length) (hsecond : second < table.length) (hne : first ≠ second) :
    table.swap first second ≠ table := by
  intro hsame
  -- The profile moved to the second position already stands at the first one.
  have hmoved : (table.swap first second)[second]? = some table[first] := by
    simp [swap, hfirst, hsecond]
  rw [hsame, List.getElem?_eq_getElem hsecond, Option.some.injEq] at hmoved
  exact hne (hnodup.getElem_inj_iff.mp hmoved).symm

/-- Entries can be ordered into an accepted table exactly when each is sound and no two share
a key, and then in one way, by sorting them. So accepted tables with the same profiles are
equal, and exchanging two profiles of one leaves no accepted table. -/
theorem exists_accepted_ordering_iff (entries : List Profile) :
    ((∃ order : List Profile, order.Perm entries ∧ Table.fault? (order ++ [.invalid]) = none) ↔
        (∀ entry ∈ entries, Sound entry) ∧ (entries.map fun entry => entry.key).Nodup) ∧
      (∀ order : List Profile, order.Perm entries → Table.fault? (order ++ [.invalid]) = none →
        order = Table.sort entries) ∧
      (∀ first second : Table, first.fault? = none → second.fault? = none →
        first.Perm second → first = second) ∧
      (∀ table : Table, table.fault? = none → ∀ first second : Nat, first < table.length →
        second < table.length → first ≠ second → (table.swap first second).fault? ≠ none) := by
  simp only [← wellFormed_iff, wellFormed_append_invalid_iff]
  have hdistinct : ∀ order : List Profile, order.Perm entries → Ascending order →
      (entries.map fun entry => entry.key).Nodup := by
    intro order hperm hascending
    exact (hperm.map _).nodup_iff.mp hascending.nodup_keys
  refine ⟨⟨?_, ?_⟩, ?_, ?_, ?_⟩
  · rintro ⟨order, hperm, hsound, hascending⟩
    refine ⟨?_, hdistinct order hperm hascending⟩
    intro entry hentry
    exact hsound entry (hperm.mem_iff.mpr hentry)
  · rintro ⟨hsound, hkeys⟩
    refine ⟨Table.sort entries, sort_perm entries, ?_, .sort hkeys⟩
    intro entry hentry
    exact hsound entry ((sort_perm entries).mem_iff.mp hentry)
  · rintro order hperm ⟨-, hascending⟩
    have hsorted := Ascending.sort (hdistinct order hperm hascending)
    exact hascending.eq_of_perm hsorted (hperm.trans (sort_perm entries).symm)
  · intro first second hfirst hsecond hperm
    exact hfirst.eq_of_perm hsecond hperm
  · intro table htable first second hfirst hsecond hne hswapped
    apply swap_ne htable.nodup hfirst hsecond hne
    exact (wellFormed_iff.mpr hswapped).eq_of_perm htable (swap_perm table first second)

end ShaderRegistry.Table
