import ShaderRegistry.Proofs.Table.Accepted
import ShaderRegistry.Table.Index

/-! # The search of accepted tables

In ascending entries the binary search for the key of an entry ends at that entry and
nowhere else. So the one entry with a target is found whatever else the table holds, even
where targets out of range share a key: of these at most one can be in the table.
-/

namespace ShaderRegistry.Table

theorem Ascending.sorted_keys {entries : List Profile} (hascending : Ascending entries) :
    (Index.ofEntries entries).keys.toList.Pairwise (· ≤ ·) := by
  simp only [Index.ofEntries, Array.toList_map]
  apply List.pairwise_map.mpr
  exact List.Pairwise.imp (fun hlt => Int.le_of_lt hlt) hascending

/-- Distinct positions hold distinct targets, since they already hold distinct keys. -/
theorem Ascending.nodup_targets {entries : List Profile} (hascending : Ascending entries) :
    (entries.map fun entry => entry.toTarget).Nodup := by
  apply List.pairwise_map.mpr
  refine List.Pairwise.imp ?_ hascending
  intro earlier later hlt hsame
  exact Int.ne_of_lt hlt (congrArg Target.key hsame)

theorem Ascending.countP_target_le_one {entries : List Profile} (hascending : Ascending entries)
    (target : Target) : entries.countP (fun entry => entry.toTarget = target) ≤ 1 := by
  have hcount := List.nodup_iff_count.mp hascending.nodup_targets target
  rw [List.count_eq_countP, List.countP_map] at hcount
  exact hcount

namespace Index

variable {entries : List Profile}

theorem size_keys (entries : List Profile) : (ofEntries entries).keys.size = entries.length := by
  simp [ofEntries]

theorem key_lt_iff_lt_lowerBound (hascending : Ascending entries) (key : Int) {index : Nat}
    (hindex : index < entries.length) :
    entries[index].key < key ↔ index < lowerBound (ofEntries entries).keys key := by
  have hsize : index < (ofEntries entries).keys.size := by rwa [size_keys]
  rw [← lt_key_iff_lt_lowerBound hascending.sorted_keys index hsize]
  simp [ofEntries]

/-- The lower bound is the one position that parts the keys below from all the others. -/
theorem eq_lowerBound_iff (hascending : Ascending entries) (key : Int) {position : Nat}
    (hposition : position ≤ entries.length) :
    position = lowerBound (ofEntries entries).keys key ↔
      ∀ (index : Nat) (hindex : index < entries.length),
        entries[index].key < key ↔ index < position := by
  have hbound := lowerBound_le_size (ofEntries entries).keys key
  rw [size_keys] at hbound
  constructor
  · rintro rfl index hindex
    exact key_lt_iff_lt_lowerBound hascending key hindex
  · intro hparts
    have hagree : ∀ index < entries.length,
        index < position ↔ index < lowerBound (ofEntries entries).keys key := by
      intro index hindex
      rw [← hparts index hindex, key_lt_iff_lt_lowerBound hascending key hindex]
    -- Of two different positions the lower one would lie before only one of them.
    rcases Nat.lt_trichotomy position (lowerBound (ofEntries entries).keys key) with
      hbefore | hsame | hafter
    · exact absurd ((hagree _ (by omega)).mpr hbefore) (Nat.lt_irrefl _)
    · exact hsame
    · exact absurd ((hagree _ (by omega)).mp hafter) (Nat.lt_irrefl _)

/-- The lower bound of the key of an entry is the position of that entry. -/
theorem lowerBound_key (hascending : Ascending entries) {position : Nat}
    (hposition : position < entries.length) :
    lowerBound (ofEntries entries).keys entries[position].key = position := by
  have hstrict := List.pairwise_iff_getElem.mp hascending
  apply Eq.symm
  rw [eq_lowerBound_iff hascending _ (Nat.le_of_lt hposition)]
  intro index hindex
  constructor
  · intro hbelow
    rcases Nat.lt_trichotomy index position with hbefore | rfl | hafter
    · exact hbefore
    · exact absurd hbelow (Int.lt_irrefl _)
    · exact absurd (Int.lt_trans hbelow (hstrict _ _ hposition hindex hafter)) (Int.lt_irrefl _)
  · exact hstrict _ _ hindex hposition

theorem find?_eq_some_of_mem (hascending : Ascending entries) {entry : Profile}
    (hentry : entry ∈ entries) : (ofEntries entries).find? entry.toTarget = some entry := by
  obtain ⟨position, hposition, rfl⟩ := List.mem_iff_getElem.mp hentry
  unfold find?
  rw [lowerBound_key hascending hposition]
  simp [ofEntries, hposition]

theorem find?_eq_none_of_forall_ne {target : Target}
    (habsent : ∀ entry ∈ entries, entry.toTarget ≠ target) :
    (ofEntries entries).find? target = none := by
  cases hfound : (ofEntries entries).find? target with
  | none => rfl
  | some entry =>
      obtain ⟨hentry, htarget⟩ := find?_sound hfound
      exact absurd htarget (habsent entry (List.mem_toArray.mp hentry))

theorem resolve_of_mem (hascending : Ascending entries) {entry : Profile}
    (hentry : entry ∈ entries) : (ofEntries entries).resolve entry.toTarget = entry := by
  rw [resolve, find?_eq_some_of_mem hascending hentry, Option.getD_some]

theorem resolve_of_forall_ne {target : Target}
    (habsent : ∀ entry ∈ entries, entry.toTarget ≠ target) :
    (ofEntries entries).resolve target = .invalid := by
  rw [resolve, find?_eq_none_of_forall_ne habsent, Option.getD_none]

/-- In every table that passes the check, the search of the keys answers with the one entry
of the target asked for, and with the closing profile when there is no such entry. -/
theorem resolve_eq_unique_entry {table : Table} (haccepted : table.fault? = none)
    (target : Target) :
    (∀ entry ∈ table.dropLast, entry.toTarget = target →
        (ofTable table).resolve target = entry) ∧
      ((∀ entry ∈ table.dropLast, entry.toTarget ≠ target) →
        table.getLast? = some ((ofTable table).resolve target)) ∧
      table.dropLast.countP (fun entry => entry.toTarget = target) ≤ 1 := by
  obtain ⟨hclosed, -, hascending⟩ := fault?_eq_none_iff.mp haccepted
  refine ⟨?_, ?_, hascending.countP_target_le_one target⟩
  · rintro entry hentry rfl
    exact resolve_of_mem hascending hentry
  · intro habsent
    rw [hclosed, ofTable, resolve_of_forall_ne habsent]

/-- Targets out of range on both sides: the first key is negative, and the second entry has
the key that pixel shaders of model 5.0 have by right. -/
def overlappingTable : Table :=
  [{ Profile.invalid with toTarget := ⟨.pixel, -1, .numeric 0⟩, name := "ps_-1_0" },
    { Profile.invalid with toTarget := ⟨.pixel, 4, .numeric 256⟩, name := "ps_4_256" },
    offlineLibrary, .invalid]

theorem resolve_overlappingTable :
    overlappingTable.fault? = none ∧
      ((ofTable overlappingTable).resolve ⟨.pixel, 4, .numeric 256⟩).name = "ps_4_256" ∧
      (ofTable overlappingTable).resolve ⟨.pixel, 5, .numeric 0⟩ = .invalid ∧
      (ofTable overlappingTable).resolve ⟨.library, 6, .numeric 15⟩ = .invalid := by
  have haccepted : overlappingTable.fault? = none := by decide +kernel
  have habsent : ∀ target : Target, (∀ entry ∈ overlappingTable.dropLast,
      entry.toTarget ≠ target) → (ofTable overlappingTable).resolve target = .invalid := by
    intro target hnone
    exact (Option.some.inj ((resolve_eq_unique_entry haccepted target).2.1 hnone)).symm
  have hfound := (resolve_eq_unique_entry haccepted ⟨.pixel, 4, .numeric 256⟩).1
    overlappingTable[1] (by decide) rfl
  refine ⟨haccepted, ?_, habsent _ (by decide), habsent _ (by decide)⟩
  rw [hfound]
  rfl

end Index

end ShaderRegistry.Table
