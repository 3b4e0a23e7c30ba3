import ShaderRegistry.Proofs.ValueText

/-! # The columns of the table of profiles

Behind the name a row goes through five columns, each of which has a label and an entry that
is filled up to the width of the column. Entries are words and the last of them ends the row,
so that nothing is ever cleared at the end of a row.
-/

namespace ShaderRegistry.Report

/-- A column behind the name. -/
inductive Column where
  | inputs
  | outputs
  | uavs
  | dxil
  | validator
  deriving DecidableEq

namespace Column

/-- Every column, from left to right. -/
def all : List Column :=
  [inputs, outputs, uavs, dxil, validator]

def label : Column → String
  | inputs => "in"
  | outputs => "out"
  | uavs => "uav"
  | dxil => "dxil"
  | validator => "val"

/-- How far entries are filled up. Nothing follows the last column, which is not filled. -/
def width : Column → Nat
  | inputs => 3
  | outputs => 3
  | uavs => 10
  | dxil => 4
  | validator => 0

def entry (summary : Summary) : Column → String
  | inputs => toString summary.profile.inputRegisters
  | outputs => toString summary.profile.outputRegisters
  | uavs => summary.profile.uavRegisters.text
  | dxil => dxilText summary.dxil
  | validator => validatorText summary.validator

/-- The columns before this one. -/
def before (column : Column) : List Column :=
  all.takeWhile fun other => other ≠ column

/-- The columns after this one. -/
def after (column : Column) : List Column :=
  (all.dropWhile fun other => other ≠ column).tail

theorem all_eq (column : Column) : all = column.before ++ column :: column.after := by
  cases column <;> decide

end Column

/-- A row up to its columns. -/
def nameText (nameWidth : Nat) (summary : Summary) : String :=
  "  " ++ Text.padRight nameWidth summary.profile.name ++ " "

/-- What a row has of one column. -/
def columnText (summary : Summary) (column : Column) : String :=
  " " ++ column.label ++ " " ++ Text.padRight column.width (column.entry summary)

/-- What a row has of several columns. -/
def columnsText (summary : Summary) : List Column → String
  | [] => ""
  | column :: rest => columnText summary column ++ columnsText summary rest

theorem columnsText_append (summary : Summary) (first second : List Column) :
    columnsText summary (first ++ second) =
      columnsText summary first ++ columnsText summary second := by
  induction first with
  | nil => simp [columnsText]
  | cons column rest ih => simp [columnsText, ih, String.append_assoc]

/-- The last entry is not filled up. -/
theorem columnText_validator (summary : Summary) :
    columnText summary .validator = " val " ++ validatorText summary.validator := by
  simp [columnText, Column.label, Column.width, Column.entry, Text.padRight, List.rightpad]

theorem profileRow_eq_columns (nameWidth : Nat) (summary : Summary) :
    profileRow nameWidth summary =
      nameText nameWidth summary ++ columnsText summary Column.all := by
  have hinputs : "  in " = " " ++ (" " ++ ("in" ++ " ")) := rfl
  have houtputs : " out " = " " ++ ("out" ++ " ") := rfl
  have huavs : " uav " = " " ++ ("uav" ++ " ") := rfl
  have hdxil : " dxil " = " " ++ ("dxil" ++ " ") := rfl
  unfold profileRow
  simp only [nameText, columnsText, Column.all, columnText_validator]
  simp only [columnText, Column.label, Column.width, Column.entry, hinputs, houtputs, huavs,
    hdxil, String.append_assoc, String.append_empty]

theorem Column.isWord_label (column : Column) : Text.IsWord column.label := by
  cases column <;> decide

theorem Column.isWord_entry (column : Column) (summary : Summary) :
    Text.IsWord (column.entry summary) := by
  cases column with
  | inputs => exact Text.isWord_toString _
  | outputs => exact Text.isWord_toString _
  | uavs => exact RegisterCount.isWord_text _
  | dxil => exact isWord_dxilText _
  | validator => exact isWord_validatorText _

/-- The row ends in a word, behind which there is nothing to clear. -/
theorem trimEnd_profileRow (nameWidth : Nat) (summary : Summary) :
    Text.trimEnd (profileRow nameWidth summary) = profileRow nameWidth summary :=
  (isWord_validatorText summary.validator).trimEnd_append _

theorem words_columnText (summary : Summary) (column : Column) (front : String) :
    Text.words (front ++ columnText summary column) =
      Text.words front ++ [column.label, column.entry summary] := by
  have hparts : front ++ columnText summary column =
      front ++ " " ++ (column.label ++ " " ++ Text.padRight column.width (column.entry summary)) := by
    simp only [columnText, String.append_assoc]
  rw [hparts, Text.words_append_space, Text.words_append_space, Text.words_padRight,
    (column.isWord_label).words_eq, (column.isWord_entry summary).words_eq]
  rfl

theorem words_columnsText (summary : Summary) (columns : List Column) (front : String) :
    Text.words (front ++ columnsText summary columns) =
      Text.words front ++
        columns.flatMap fun column => [column.label, column.entry summary] := by
  induction columns generalizing front with
  | nil => simp [columnsText]
  | cons column rest ih =>
      rw [columnsText, ← String.append_assoc, ih, words_columnText, List.append_assoc]
      rfl

theorem words_nameText (nameWidth : Nat) {summary : Summary}
    (hname : Text.IsWord summary.profile.name) :
    Text.words (nameText nameWidth summary) = [summary.profile.name] := by
  have hparts : nameText nameWidth summary =
      "" ++ "  " ++ Text.padRight nameWidth summary.profile.name ++ " " ++ "" := by
    simp only [nameText, String.empty_append, String.append_empty]
  have hnone : Text.words "" = [] := rfl
  rw [hparts, Text.words_append_space, Text.words_append_twoSpaces, Text.words_padRight,
    hname.words_eq, hnone]
  rfl

/-- The words of a row are the name and then label and entry of every column, also where the
entries overflow their columns. -/
theorem words_profileRow (nameWidth : Nat) {summary : Summary}
    (hname : Text.IsWord summary.profile.name) :
    Text.words (profileRow nameWidth summary) =
      summary.profile.name ::
        Column.all.flatMap fun column => [column.label, column.entry summary] := by
  rw [profileRow_eq_columns, words_columnsText, words_nameText nameWidth hname]
  rfl

theorem lineFeed_notMem_columnsText (summary : Summary) (columns : List Column) :
    '\n' ∉ (columnsText summary columns).toList := by
  induction columns with
  | nil => simp [columnsText]
  | cons column rest ih =>
      have hlabel := column.isWord_label.lineFeed_notMem
      have hentry := Text.lineFeed_notMem_padRight column.width
        (column.isWord_entry summary).lineFeed_notMem
      simp [columnsText, columnText, hlabel, hentry, ih]

theorem lineFeed_notMem_profileRow (nameWidth : Nat) {summary : Summary}
    (hname : Text.IsWord summary.profile.name) :
    '\n' ∉ (profileRow nameWidth summary).toList := by
  have hpadded := Text.lineFeed_notMem_padRight nameWidth hname.lineFeed_notMem
  rw [profileRow_eq_columns, String.toList_append, List.mem_append, not_or]
  exact ⟨by simp [nameText, hpadded], lineFeed_notMem_columnsText summary _⟩

/-- The rows of the table, from top to bottom. -/
def profileRows (summaries : List Summary) : List String :=
  summaries.map fun summary => Text.trimEnd (profileRow (nameWidth summaries) summary)

theorem profileTable_eq_rows (summaries : List Summary) :
    profileTable summaries =
      Text.ofLines ([toString summaries.length ++ " shader models:", ""] ++
        profileRows summaries) :=
  rfl

theorem profileRows_eq_map (summaries : List Summary) :
    profileRows summaries = summaries.map (profileRow (nameWidth summaries)) :=
  List.map_congr_left fun summary _ => trimEnd_profileRow _ summary

end ShaderRegistry.Report
