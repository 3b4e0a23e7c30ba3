import Mathlib.Data.List.InsertIdx
import ShaderRegistry.Proofs.Table.Ordering
import ShaderRegistry.Proofs.Table.Search

/-! # Editing accepted tables

Taking entries out of an accepted table leaves an accepted one, since the order of the keys
holds across the gaps. Putting a sound entry in is possible in one place, the lower bound of
its key, and in none if the key is taken.
-/

namespace ShaderRegistry.Table

namespace Ascending

variable {front back : List Profile}

/-- The lower bound of a key parts the entries below it from the others, and no other
position does. -/
theorem length_eq_lowerBound_iff (hascending : Ascending (front ++ back)) (key : Int) :
    front.length = lowerBound (Index.ofEntries (front ++ back)).keys key ↔
      (∀ entry ∈ front, entry.key < key) ∧ ∀ entry ∈ back, key ≤ entry.key := by
  rw [Index.eq_lowerBound_iff hascending key (by simp)]
  constructor
  · intro hparts
    constructor
    · intro entry hentry
      obtain ⟨index, hindex, rfl⟩ := List.mem_iff_getElem.mp hentry
      have hbelow := (hparts index (by rw [List.length_append]; omega)).mpr hindex
      rwa [List.getElem_append_left hindex] at hbelow
    · intro entry hentry
      obtain ⟨index, hindex, rfl⟩ := List.mem_iff_getElem.mp hentry
      have hnot := (hparts (front.length + index) (by rw [List.length_append]; omega)).not.mpr
        (by omega)
      rw [List.getElem_append_right (Nat.le_add_right _ _)] at hnot
      simpa using hnot
  · rintro ⟨hfront, hback⟩ index hindex
    by_cases hleft : index < front.length
    · rw [List.getElem_append_left hleft]
      exact iff_of_true (hfront _ (List.getElem_mem _)) hleft
    · rw [List.getElem_append_right (Nat.not_lt.mp hleft)]
      exact iff_of_false (Int.not_lt.mpr (hback _ (List.getElem_mem _))) hleft

/-- An entry fits between the parts of ascending entries if its key does. -/
theorem append_cons_iff (hascending : Ascending (front ++ back)) {entry : Profile} :
    Ascending (front ++ entry :: back) ↔
      (∀ earlier ∈ front, earlier.key < entry.key) ∧ ∀ later ∈ back, entry.key < later.key := by
  obtain ⟨hfront, hback, hacross⟩ := List.pairwise_append.mp hascending
  constructor
  · intro hinserted
    obtain ⟨-, hbehind, hbefore⟩ := List.pairwise_append.mp hinserted
    refine ⟨?_, (List.pairwise_cons.mp hbehind).1⟩
    intro earlier hearlier
    exact hbefore earlier hearlier entry List.mem_cons_self
  · rintro ⟨hbelow, habove⟩
    refine List.pairwise_append.mpr ⟨hfront, List.pairwise_cons.mpr ⟨habove, hback⟩, ?_⟩
    intro earlier hearlier later hlater
    rcases List.mem_cons.mp hlater with rfl | hlater
    · exact hbelow earlier hearlier
    · exact hacross earlier hearlier later hlater

/-- The place of an entry with a new key is the lower bound of the key, and an entry with a
key that is taken has no place. -/
theorem append_cons_iff_lowerBound (hascending : Ascending (front ++ back)) {entry : Profile} :
    Ascending (front ++ entry :: back) ↔
      (∀ other ∈ front ++ back, other.key ≠ entry.key) ∧
        front.length = lowerBound (Index.ofEntries (front ++ back)).keys entry.key := by
  rw [append_cons_iff hascending, length_eq_lowerBound_iff hascending]
  constructor
  · rintro ⟨hbelow, habove⟩
    refine ⟨?_, hbelow, fun later hlater => Int.le_of_lt (habove later hlater)⟩
    intro other hother
    rcases List.mem_append.mp hother with hother | hother
    · exact Int.ne_of_lt (hbelow other hother)
    · exact (Int.ne_of_lt (habove other hother)).symm
  · rintro ⟨hnew, hbelow, habove⟩
    refine ⟨hbelow, ?_⟩
    intro later hlater
    have hle := habove later hlater
    have hne := hnew later (List.mem_append_right front hlater)
    omega

end Ascending

theorem insertIdx_length_append (front rest : List Profile) (entry : Profile) :
    (front ++ rest).insertIdx front.length entry = front ++ entry :: rest :=
  List.modifyTailIdx_add (List.cons entry) 0 front rest

namespace WellFormed

variable {table : Table}

/-- What remains is as well formed as the whole, whichever entries are taken out. -/
theorem of_sublist (htable : table.WellFormed) {kept : List Profile}
    (hkept : kept.Sublist table.dropLast) : WellFormed (kept ++ [.invalid]) := by
  refine wellFormed_append_invalid_iff.mpr ⟨?_, htable.ascending.sublist hkept⟩
  intro entry hentry
  exact htable.sound entry (hkept.subset hentry)

/-- Nothing can be put behind the closing profile, which would become an entry. -/
theorem not_concat (htable : table.WellFormed) (entry : Profile) :
    ¬WellFormed (table ++ [entry]) := by
  intro hlonger
  have hinvalid : Profile.invalid ∈ (table ++ [entry]).dropLast := by
    rw [List.dropLast_concat]
    exact List.mem_of_getLast? htable.closed
  exact (hlonger.sound _ hinvalid).ne_invalid rfl

/-- Among the entries it is the order alone that decides where a sound one can stand. -/
theorem append_cons_iff {front back : List Profile}
    (htable : WellFormed (front ++ back ++ [.invalid])) {entry : Profile} :
    WellFormed (front ++ entry :: back ++ [.invalid]) ↔
      Sound entry ∧ Ascending (front ++ entry :: back) := by
  rw [wellFormed_append_invalid_iff] at htable ⊢
  refine and_congr_left fun _ => ?_
  constructor
  · intro hall
    exact hall entry (List.mem_append_right _ List.mem_cons_self)
  · intro hentry other hother
    rcases List.mem_append.mp hother with hother | hother
    · exact htable.1 other (List.mem_append_left _ hother)
    · rcases List.mem_cons.mp hother with rfl | hother
      · exact hentry
      · exact htable.1 other (List.mem_append_right _ hother)

theorem insert_iff (htable : table.WellFormed) (entry : Profile) {position : Nat}
    (hposition : position ≤ table.length) :
    WellFormed (table.edit (.insert position entry)) ↔
      Sound entry ∧ (∀ other ∈ table.dropLast, other.key ≠ entry.key) ∧
        position = lowerBound (Index.ofTable table).keys entry.key := by
  obtain ⟨entries, rfl⟩ := List.getLast?_eq_some_iff.mp htable.closed
  simp only [edit, Index.ofTable, List.dropLast_concat]
  -- Up to the closing profile an insertion parts the entries in two, and behind it there are
  -- no entries to part.
  by_cases hinside : position ≤ entries.length
  · obtain ⟨front, back, rfl, rfl⟩ :
        ∃ front back, entries = front ++ back ∧ front.length = position :=
      ⟨_, _, (List.take_append_drop position entries).symm, List.length_take_of_le hinside⟩
    have hascending := (wellFormed_append_invalid_iff.mp htable).2
    rw [List.append_assoc, insertIdx_length_append, ← List.cons_append, ← List.append_assoc,
      htable.append_cons_iff, hascending.append_cons_iff_lowerBound]
  · have hend : position = (entries ++ [Profile.invalid]).length := by
      rw [List.length_append, List.length_singleton] at hposition ⊢
      omega
    rw [hend, List.insertIdx_length_self]
    refine iff_of_false (htable.not_concat entry) ?_
    rintro ⟨-, -, hbound⟩
    have hsize := lowerBound_le_size (Index.ofEntries entries).keys entry.key
    rw [Index.size_keys, ← hbound, List.length_append, List.length_singleton] at hsize
    omega

end WellFormed

/-- Any entries can be taken out of an accepted table. An entry can be put in exactly if it is
sound and its key new, and then only at the lower bound of the key among the keys of the
entries: in one place if it can be put in at all. -/
theorem accepted_edits {table : Table} (haccepted : table.fault? = none) :
    (∀ kept : List Profile, kept.Sublist table.dropLast →
        Table.fault? (kept ++ [.invalid]) = none) ∧
      ∀ entry : Profile,
        (∀ position ≤ table.length, (table.edit (.insert position entry)).fault? = none ↔
          Sound entry ∧ (∀ other ∈ table.dropLast, other.key ≠ entry.key) ∧
            position = lowerBound (Index.ofTable table).keys entry.key) ∧
        (Sound entry → (∀ other ∈ table.dropLast, other.key ≠ entry.key) →
          ∃! position, position ≤ table.length ∧
            (table.edit (.insert position entry)).fault? = none) ∧
        ((∃ other ∈ table.dropLast, other.key = entry.key) → ∀ position ≤ table.length,
          (table.edit (.insert position entry)).fault? ≠ none) := by
  have htable := wellFormed_iff.mpr haccepted
  have hinsert : ∀ (entry : Profile) (position : Nat), position ≤ table.length →
      ((table.edit (.insert position entry)).fault? = none ↔
        Sound entry ∧ (∀ other ∈ table.dropLast, other.key ≠ entry.key) ∧
          position = lowerBound (Index.ofTable table).keys entry.key) := by
    intro entry position hposition
    rw [← wellFormed_iff, htable.insert_iff entry hposition]
  refine ⟨fun kept hkept => wellFormed_iff.mp (htable.of_sublist hkept), ?_⟩
  intro entry
  refine ⟨hinsert entry, ?_, ?_⟩
  · intro hsound hnew
    have hbound := lowerBound_le_size (Index.ofTable table).keys entry.key
    rw [Index.ofTable, Index.size_keys, List.length_dropLast] at hbound
    have hinside := Nat.le_trans hbound (Nat.sub_le _ _)
    refine ⟨_, ⟨hinside, (hinsert entry _ hinside).mpr ⟨hsound, hnew, rfl⟩⟩, ?_⟩
    rintro position ⟨hposition, haccept⟩
    exact ((hinsert entry position hposition).mp haccept).2.2
  · rintro ⟨other, hother, hsame⟩ position hposition haccept
    exact ((hinsert entry position hposition).mp haccept).2.1 other hother hsame

def vertexProfile : Profile :=
  { Profile.invalid with toTarget := ⟨.vertex, 6, .numeric 0⟩, name := "vs_6_0" }

/-- The key of the second entry is that of a profile out of range, and takes the place of the
profile that has it by right. -/
theorem edits_of_overlappingTable :
    Index.overlappingTable.fault? = none ∧
      Table.fault? [Index.overlappingTable[0], Index.overlappingTable[2], .invalid] = none ∧
      (∃! position, position ≤ 4 ∧
        (Index.overlappingTable.edit (.insert position vertexProfile)).fault? = none) ∧
      ∀ position ≤ 4, (Index.overlappingTable.edit (.insert position
        { vertexProfile with toTarget := ⟨.pixel, 5, .numeric 0⟩, name := "ps_5_0" })).fault? ≠
          none := by
  have haccepted : Index.overlappingTable.fault? = none := by decide +kernel
  obtain ⟨htaken, hput⟩ := accepted_edits haccepted
  have hsound : Sound vertexProfile := ⟨by decide, by decide, by decide +kernel⟩
  have hkept : [Index.overlappingTable[0], Index.overlappingTable[2]].Sublist
      Index.overlappingTable.dropLast := .cons_cons _ (.cons _ (.refl _))
  have hkey : ∃ other ∈ Index.overlappingTable.dropLast, other.key =
      Target.key ⟨.pixel, 5, .numeric 0⟩ :=
    ⟨Index.overlappingTable[1], by decide, by decide +kernel⟩
  exact ⟨haccepted, htaken _ hkept, (hput vertexProfile).2.1 hsound (by decide +kernel),
    (hput _).2.2 hkey⟩

end ShaderRegistry.Table
