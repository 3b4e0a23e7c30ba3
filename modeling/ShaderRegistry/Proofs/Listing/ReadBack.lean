import ShaderRegistry.Proofs.Listing.Columns

/-! # Reading the table of profiles

The words of a row are the name of a profile and then label and entry of each column. Numbers
are read from their digits, and the entries that are no number or version look like none. So
the table gives back what its rows tell, however large the numbers are and whatever they do to
the columns.
-/

namespace ShaderRegistry

/-- What a row of the table tells. -/
structure Listed where
  name : String
  inputRegisters : Int
  outputRegisters : Int
  uavRegisters : RegisterCount
  dxil : Option Version
  validator : Option Version
  deriving DecidableEq

def Summary.listed (summary : Summary) : Listed where
  name := summary.profile.name
  inputRegisters := summary.profile.inputRegisters
  outputRegisters := summary.profile.outputRegisters
  uavRegisters := summary.profile.uavRegisters
  dxil := summary.dxil
  validator := summary.validator

namespace Listed

/-- The words of a row. -/
def tokens (listed : Listed) : List String :=
  [listed.name, "in", toString listed.inputRegisters, "out", toString listed.outputRegisters,
    "uav", listed.uavRegisters.text, "dxil", Report.dxilText listed.dxil,
    "val", Report.validatorText listed.validator]

def ofTokens? : List String → Option Listed
  | [name, "in", inputs, "out", outputs, "uav", uavs, "dxil", dxil, "val", validator] => do
    let inputRegisters ← inputs.toInt?
    let outputRegisters ← outputs.toInt?
    let uavRegisters ← RegisterCount.ofText? uavs
    let dxil ← Report.dxilOfText? dxil
    let validator ← Report.validatorOfText? validator
    return { name, inputRegisters, outputRegisters, uavRegisters, dxil, validator }
  | _ => none

theorem ofTokens?_tokens (listed : Listed) : ofTokens? listed.tokens = some listed := by
  simp only [tokens, ofTokens?, Text.toInt?_toString, RegisterCount.ofText?_text,
    Report.dxilOfText?_dxilText, Report.validatorOfText?_validatorText]
  rfl

/-- What the rows of a table tell, between its heading and the end of the last line. -/
def ofTable? (table : String) : Option (List Listed) :=
  ((Text.lines table).drop 2).dropLast.mapM fun row => ofTokens? (Text.words row)

end Listed

namespace Report

variable {summaries : List Summary}

theorem words_profileRow_eq_tokens (nameWidth : Nat) {summary : Summary}
    (hname : Text.IsWord summary.profile.name) :
    Text.words (profileRow nameWidth summary) = summary.listed.tokens :=
  words_profileRow nameWidth hname

theorem lines_profileTable
    (hnames : ∀ summary ∈ summaries, Text.IsWord summary.profile.name) :
    Text.lines (profileTable summaries) =
      [toString summaries.length ++ " shader models:", ""] ++ profileRows summaries ++ [""] := by
  rw [profileTable_eq_rows]
  apply Text.lines_ofLines
  intro row hrow
  rw [profileRows_eq_map] at hrow
  rcases List.mem_append.mp hrow with hheading | hlisted
  · have hcount := (Text.isWord_toString summaries.length).lineFeed_notMem
    rcases List.mem_pair.mp hheading with rfl | rfl
    · rw [String.toList_append, List.mem_append, not_or]
      exact ⟨hcount, by decide⟩
    · decide
  · obtain ⟨summary, hsummary, rfl⟩ := List.mem_map.mp hlisted
    exact lineFeed_notMem_profileRow _ (hnames summary hsummary)

theorem mapM_read_profileRow (nameWidth : Nat)
    (hnames : ∀ summary ∈ summaries, Text.IsWord summary.profile.name) :
    (summaries.map (profileRow nameWidth)).mapM
        (fun row => Listed.ofTokens? (Text.words row)) =
      some (summaries.map Summary.listed) := by
  induction summaries with
  | nil => rfl
  | cons summary rest ih =>
      obtain ⟨hname, hrest⟩ := List.forall_mem_cons.mp hnames
      rw [List.map_cons, List.mapM_cons, words_profileRow_eq_tokens nameWidth hname,
        Listed.ofTokens?_tokens, ih hrest]
      rfl

/-- The table is a line that counts the profiles, an empty line, and a line for each of them, if
their names are words. The words of such a line are the name and then label and entry of each
column, and the table is read back from them. -/
theorem profileTable_reads_back (summaries : List Summary)
    (hnames : ∀ summary ∈ summaries, Text.IsWord summary.profile.name) :
    Text.lines (profileTable summaries) =
        [toString summaries.length ++ " shader models:", ""] ++ profileRows summaries ++ [""] ∧
      (profileRows summaries).map Text.words =
        summaries.map (fun summary => summary.listed.tokens) ∧
      (∀ listed : Listed, Listed.ofTokens? listed.tokens = some listed) ∧
      Listed.ofTable? (profileTable summaries) = some (summaries.map Summary.listed) := by
  have hlines := lines_profileTable hnames
  refine ⟨hlines, ?_, Listed.ofTokens?_tokens, ?_⟩
  · rw [profileRows_eq_map, List.map_map]
    apply List.map_congr_left
    intro summary hsummary
    rw [Function.comp_apply, words_profileRow_eq_tokens _ (hnames summary hsummary)]
  · have hrows : ((Text.lines (profileTable summaries)).drop 2).dropLast =
        summaries.map (profileRow (nameWidth summaries)) := by
      calc
        ((Text.lines (profileTable summaries)).drop 2).dropLast =
            (profileRows summaries ++ [""]).dropLast := by
          rw [hlines, List.append_assoc]
          rfl
        _ = profileRows summaries := List.dropLast_concat
        _ = summaries.map (profileRow (nameWidth summaries)) := profileRows_eq_map summaries
    rw [Listed.ofTable?, hrows]
    exact mapM_read_profileRow _ hnames

/-- Entries that overflow their columns, and versions that are missing or zero. -/
def overflowingSummaries : List Summary :=
  [
    { profile :=
        { Profile.invalid with
          name := "in"
          inputRegisters := 123456
          outputRegisters := -7
          uavRegisters := .limited 12345678901 }
      dxil := some ⟨-100, 25⟩
      validator := none },
    { profile := { Profile.invalid with name := "lib_6_x", uavRegisters := .unlimited }
      dxil := none
      validator := some ⟨0, 0⟩ }
  ]

/-- The words of their rows. -/
def overflowingTokens : List (List String) :=
  [
    ["in", "in", "123456", "out", "-7", "uav", "12345678901", "dxil", "-100.25", "val", "-"],
    ["lib_6_x", "in", "0", "out", "0", "uav", "unlimited", "dxil", "-", "val", "none"]
  ]

theorem overflowingSummaries_read_back :
    (∀ summary ∈ overflowingSummaries, Text.IsWord summary.profile.name) ∧
      (profileRows overflowingSummaries).map Text.words = overflowingTokens ∧
      Listed.ofTable? (profileTable overflowingSummaries) =
        some (overflowingSummaries.map Summary.listed) := by
  have hnames : ∀ summary ∈ overflowingSummaries, Text.IsWord summary.profile.name := by
    simp only [overflowingSummaries, List.forall_mem_cons]
    exact ⟨by decide, by decide, by simp⟩
  have htokens : overflowingSummaries.map (fun summary => summary.listed.tokens) =
      overflowingTokens := by decide +kernel
  obtain ⟨-, hwords, -, hread⟩ := profileTable_reads_back overflowingSummaries hnames
  exact ⟨hnames, hwords.trans htokens, hread⟩

end Report

end ShaderRegistry
