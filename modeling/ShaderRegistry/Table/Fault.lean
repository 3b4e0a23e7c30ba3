import ShaderRegistry.Profile

/-! # Faults of tables

A table lists profiles by ascending key and ends with the invalid profile. The check
answers with the first thing that is wrong: the end of the table is looked at before the
entries, and the entries are looked at from the front.
-/

namespace ShaderRegistry

abbrev Table := List Profile

namespace Table

inductive Fault where
  | empty
  /-- The table ends with something other than the invalid profile. -/
  | unclosed (last : Profile)
  /-- An entry of no kind stands before the end. -/
  | invalidKind (entry : Profile)
  | offlineOutsideLibrary (entry : Profile)
  | misnamed (entry : Profile)
  /-- An entry whose key does not exceed that of the entry just before it. -/
  | outOfOrder (previous entry : Profile)
  deriving DecidableEq

def Fault.message : Fault → String
  | .empty => "Shader model table is empty"
  | .unclosed last => "Last shader model must be the invalid sentinel, got " ++ last.name
  | .invalidKind entry => "Invalid kind before the end of the table: " ++ entry.name
  | .offlineOutsideLibrary entry =>
    "Offline minor is only allowed for library profiles: " ++ entry.name
  | .misnamed entry =>
    "Profile " ++ entry.name ++ " should be named " ++ entry.canonicalName
  | .outOfOrder previous entry =>
    "Shader models out of order: " ++ previous.name ++ " before " ++ entry.name

/-- What is wrong with an entry wherever it stands. -/
def entryFault? (entry : Profile) : Option Fault :=
  if entry.kind = .invalid then some (.invalidKind entry)
  else if entry.minor = .offline ∧ entry.kind ≠ .library then
    some (.offlineOutsideLibrary entry)
  else if entry.name ≠ entry.canonicalName then some (.misnamed entry)
  else none

/-- What is wrong with an entry just behind another one. -/
def orderFault? (previous entry : Profile) : Option Fault :=
  if entry.key ≤ previous.key then some (.outOfOrder previous entry) else none

/-- The first fault among entries that follow `previous`. -/
def entriesFault? (previous : Option Profile) : List Profile → Option Fault
  | [] => none
  | entry :: rest =>
    entryFault? entry
      <|> previous.bind (orderFault? · entry)
      <|> entriesFault? (some entry) rest

/-- The first fault of a table, `none` for a table that is in order. -/
def fault? (table : Table) : Option Fault :=
  match table.getLast? with
  | none => some .empty
  | some last =>
    if last = .invalid then entriesFault? none table.dropLast else some (.unclosed last)

@[simp] theorem fault?_nil : fault? [] = some .empty := rfl

theorem fault?_append_invalid (entries : List Profile) :
    fault? (entries ++ [.invalid]) = entriesFault? none entries := by
  simp [fault?]

theorem fault?_of_unclosed {table : Table} {last : Profile} (hlast : last ∈ table.getLast?)
    (hopen : last ≠ .invalid) : table.fault? = some (.unclosed last) := by
  unfold fault?
  rw [Option.mem_def.mp hlast]
  exact if_neg hopen

theorem fault?_of_closed {table : Table} (hclosed : table.getLast? = some .invalid) :
    table.fault? = entriesFault? none table.dropLast := by
  unfold fault?
  rw [hclosed]
  exact if_pos rfl

theorem entryFault?_eq_none_iff {entry : Profile} :
    entryFault? entry = none ↔
      entry.kind ≠ .invalid ∧ (entry.minor = .offline → entry.kind = .library) ∧
        entry.name = entry.canonicalName := by
  unfold entryFault?
  split
  · simp_all
  · split
    · simp_all
    · split <;> simp_all

theorem orderFault?_eq_none_iff {previous entry : Profile} :
    orderFault? previous entry = none ↔ previous.key < entry.key := by
  simp [orderFault?]

end Table

end ShaderRegistry
