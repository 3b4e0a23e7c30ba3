import ShaderRegistry.Proofs.Listing.Columns

/-! # Alignment of the table of profiles

A row is made from its own summary and the length of the longest name, which is all that it
knows of the other rows. An entry that fits its column leaves the labels behind it in their
places, so that in a table where all entries fit the labels stand below each other.
-/

namespace ShaderRegistry

/-- The entries before the last one fit their columns. -/
structure Summary.FitsColumns (summary : Summary) : Prop where
  inputs : (toString summary.profile.inputRegisters).length ≤ 3
  outputs : (toString summary.profile.outputRegisters).length ≤ 3
  uavs : summary.profile.uavRegisters.text.length ≤ 10
  dxil : (Report.dxilText summary.dxil).length ≤ 4

namespace Report

variable {summaries : List Summary} {summary : Summary} {column : Column}

theorem nameWidth_le_iff {bound : Nat} :
    nameWidth summaries ≤ bound ↔
      ∀ summary ∈ summaries, summary.profile.name.length ≤ bound := by
  induction summaries with
  | nil => simp [nameWidth]
  | cons summary rest ih =>
      rw [List.forall_mem_cons, ← ih]
      exact Nat.max_le

theorem length_name_le (hsummary : summary ∈ summaries) :
    summary.profile.name.length ≤ nameWidth summaries :=
  nameWidth_le_iff.mp (Nat.le_refl _) summary hsummary

theorem exists_length_name_eq (hsome : summaries ≠ []) :
    ∃ summary ∈ summaries, summary.profile.name.length = nameWidth summaries := by
  by_contra hnone
  have hshorter : ∀ summary ∈ summaries,
      summary.profile.name.length < nameWidth summaries := by
    intro summary hsummary
    apply Nat.lt_of_le_of_ne (length_name_le hsummary)
    intro heq
    exact hnone ⟨summary, hsummary, heq⟩
  -- Names that are all shorter leave room to spare.
  have hwidth : nameWidth summaries ≤ nameWidth summaries - 1 := by
    apply nameWidth_le_iff.mpr
    intro summary hsummary
    exact Nat.le_sub_one_of_lt (hshorter summary hsummary)
  obtain ⟨first, hfirst⟩ := List.exists_mem_of_ne_nil summaries hsome
  have hpositive := hshorter first hfirst
  omega

theorem nameWidth_eq_of_perm {other : List Summary} (hperm : other.Perm summaries) :
    nameWidth other = nameWidth summaries := by
  apply Nat.le_antisymm
  · apply nameWidth_le_iff.mpr
    intro summary hsummary
    exact length_name_le (hperm.mem_iff.mp hsummary)
  · apply nameWidth_le_iff.mpr
    intro summary hsummary
    exact length_name_le (hperm.mem_iff.mpr hsummary)

theorem profileRows_getElem?_eq {other : List Summary} {index : Nat}
    (hwidth : nameWidth other = nameWidth summaries) (hsame : other[index]? = summaries[index]?) :
    (profileRows other)[index]? = (profileRows summaries)[index]? := by
  rw [profileRows_eq_map, profileRows_eq_map, List.getElem?_map, List.getElem?_map, hwidth, hsame]

theorem profileTable_eq_of_perm {other : List Summary} (hperm : other.Perm summaries) :
    profileTable other =
      Text.ofLines ([toString summaries.length ++ " shader models:", ""] ++
        other.map (profileRow (nameWidth summaries))) := by
  rw [profileTable_eq_rows, profileRows_eq_map, nameWidth_eq_of_perm hperm, hperm.length_eq]

/-- How many characters a column takes when its entry fits. -/
def Column.span (column : Column) : Nat :=
  column.label.length + column.width + 2

/-- How far the label of a column starts beyond the length of the longest name. -/
def Column.offset (column : Column) : Nat :=
  4 + (column.before.map Column.span).sum

example : Column.all.map Column.offset = [4, 11, 19, 34, 44] := by decide

theorem length_columnText (hfits : (column.entry summary).length ≤ column.width) :
    (columnText summary column).length = column.span := by
  simp only [columnText, String.length_append, Text.length_padRight, Nat.max_eq_left hfits]
  change 1 + column.label.length + 1 + column.width = column.label.length + column.width + 2
  omega

theorem length_columnsText {columns : List Column}
    (hfits : ∀ column ∈ columns, (column.entry summary).length ≤ column.width) :
    (columnsText summary columns).length = (columns.map Column.span).sum := by
  induction columns with
  | nil => rfl
  | cons column rest ih =>
      obtain ⟨hcolumn, hrest⟩ := List.forall_mem_cons.mp hfits
      rw [columnsText, String.length_append, length_columnText hcolumn, ih hrest]
      rfl

theorem length_nameText {nameWidth : Nat} (hname : summary.profile.name.length ≤ nameWidth) :
    (nameText nameWidth summary).length = nameWidth + 3 := by
  simp only [nameText, String.length_append, Text.length_padRight, Nat.max_eq_left hname]
  change 2 + nameWidth + 1 = nameWidth + 3
  omega

/-- The part of a row before the label of a column. -/
def beforeLabel (nameWidth : Nat) (summary : Summary) (column : Column) : String :=
  nameText nameWidth summary ++ columnsText summary column.before ++ " "

/-- The part of a row after the label of a column, which starts with the entry. -/
def afterLabel (summary : Summary) (column : Column) : String :=
  " " ++ Text.padRight column.width (column.entry summary) ++ columnsText summary column.after

theorem profileRow_eq_around_label (nameWidth : Nat) (summary : Summary) (column : Column) :
    profileRow nameWidth summary =
      beforeLabel nameWidth summary column ++ column.label ++ afterLabel summary column := by
  rw [profileRow_eq_columns, column.all_eq, columnsText_append, columnsText]
  simp only [beforeLabel, afterLabel, columnText, String.append_assoc]

theorem Column.validator_notMem_before (column : Column) : validator ∉ column.before := by
  cases column <;> decide

end Report

theorem Summary.FitsColumns.length_entry_le {summary : Summary} {column : Report.Column}
    (hfits : summary.FitsColumns) (hcolumn : column ≠ .validator) :
    (column.entry summary).length ≤ column.width := by
  cases column with
  | inputs => exact hfits.inputs
  | outputs => exact hfits.outputs
  | uavs => exact hfits.uavs
  | dxil => exact hfits.dxil
  | validator => exact absurd rfl hcolumn

namespace Report

theorem length_beforeLabel {nameWidth : Nat} {summary : Summary} (column : Column)
    (hname : summary.profile.name.length ≤ nameWidth) (hfits : summary.FitsColumns) :
    (beforeLabel nameWidth summary column).length = nameWidth + column.offset := by
  have hentries : ∀ other ∈ column.before, (other.entry summary).length ≤ other.width := by
    intro other hother
    apply hfits.length_entry_le
    rintro rfl
    exact column.validator_notMem_before hother
  have hspace : " ".length = 1 := rfl
  rw [beforeLabel, String.length_append, String.length_append, length_nameText hname,
    length_columnsText hentries, hspace, Column.offset]
  omega

/-- The table is its heading and a row for each summary, at the end of which nothing is cleared.
A row is told by its summary and the longest name, so that summaries in another order have the
same rows in that order. If all entries fit their columns, then each label starts at one offset
in all rows, whatever the names are. -/
theorem profileTable_aligned (summaries : List Summary) :
    ((∀ summary ∈ summaries, summary.profile.name.length ≤ nameWidth summaries) ∧
      (summaries ≠ [] →
        ∃ summary ∈ summaries, summary.profile.name.length = nameWidth summaries)) ∧
    (profileTable summaries =
        Text.ofLines ([toString summaries.length ++ " shader models:", ""] ++
          profileRows summaries) ∧
      profileRows summaries = summaries.map (profileRow (nameWidth summaries))) ∧
    (∀ (other : List Summary) (index : Nat), nameWidth other = nameWidth summaries →
      other[index]? = summaries[index]? →
        (profileRows other)[index]? = (profileRows summaries)[index]?) ∧
    (∀ other : List Summary, other.Perm summaries →
      profileTable other =
        Text.ofLines ([toString summaries.length ++ " shader models:", ""] ++
          other.map (profileRow (nameWidth summaries)))) ∧
    (∀ summary ∈ summaries, Text.trimEnd (profileRow (nameWidth summaries) summary) =
      profileRow (nameWidth summaries) summary) ∧
    ((∀ summary ∈ summaries, summary.FitsColumns) →
      ∀ summary ∈ summaries, ∀ column : Column,
        profileRow (nameWidth summaries) summary =
          beforeLabel (nameWidth summaries) summary column ++ column.label ++
            afterLabel summary column ∧
        (beforeLabel (nameWidth summaries) summary column).length =
          nameWidth summaries + column.offset) := by
  refine ⟨⟨fun _ => length_name_le, exists_length_name_eq⟩,
    ⟨profileTable_eq_rows summaries, profileRows_eq_map summaries⟩,
    fun _ _ => profileRows_getElem?_eq, fun _ => profileTable_eq_of_perm,
    fun summary _ => trimEnd_profileRow _ summary, ?_⟩
  intro hfits summary hsummary column
  exact ⟨profileRow_eq_around_label _ summary column,
    length_beforeLabel column (length_name_le hsummary) (hfits summary hsummary)⟩

/-- Names of two lengths, the longer of which imitates a label, and entries of which some fill
their columns. -/
def raggedSummaries : List Summary :=
  [
    { profile :=
        { Profile.invalid with
          name := "ps_6_6  in\n"
          inputRegisters := -99
          outputRegisters := 100
          uavRegisters := .limited (-123456789) }
      dxil := some ⟨1, 10⟩
      validator := some ⟨0, 0⟩ },
    { profile := { Profile.invalid with name := "", uavRegisters := .unlimited }
      dxil := none
      validator := some ⟨-100, 1000⟩ }
  ]

theorem raggedSummaries_aligned :
    (raggedSummaries ≠ [] ∧
      ∃ summary ∈ raggedSummaries,
        summary.profile.name.length = nameWidth raggedSummaries) ∧
    (nameWidth (raggedSummaries.take 1) = nameWidth raggedSummaries ∧
      (profileRows (raggedSummaries.take 1))[0]? = (profileRows raggedSummaries)[0]?) ∧
    (raggedSummaries.reverse.Perm raggedSummaries ∧
      profileTable raggedSummaries.reverse =
        Text.ofLines (["2 shader models:", ""] ++
          raggedSummaries.reverse.map (profileRow (nameWidth raggedSummaries)))) ∧
    (∀ summary ∈ raggedSummaries, summary.FitsColumns) ∧
      ∀ summary ∈ raggedSummaries, ∀ column : Column,
        (beforeLabel (nameWidth raggedSummaries) summary column).length =
          nameWidth raggedSummaries + column.offset := by
  have hsome : raggedSummaries ≠ [] := by simp [raggedSummaries]
  have hperm : raggedSummaries.reverse.Perm raggedSummaries := List.reverse_perm _
  have hwidth : nameWidth (raggedSummaries.take 1) = nameWidth raggedSummaries := by decide
  have hfits : ∀ summary ∈ raggedSummaries, summary.FitsColumns := by
    intro summary hsummary
    simp only [raggedSummaries, List.mem_cons, List.not_mem_nil, or_false] at hsummary
    rcases hsummary with rfl | rfl
    · exact ⟨by decide, by decide, by decide, by decide⟩
    · exact ⟨by decide, by decide, by decide, by decide⟩
  obtain ⟨hlongest, -, hlocal, hreordered, -, haligned⟩ := profileTable_aligned raggedSummaries
  exact ⟨⟨hsome, hlongest.2 hsome⟩, ⟨hwidth, hlocal _ 0 hwidth rfl⟩,
    ⟨hperm, hreordered _ hperm⟩, hfits,
    fun summary hsummary column => (haligned hfits summary hsummary column).2⟩

end Report

end ShaderRegistry
