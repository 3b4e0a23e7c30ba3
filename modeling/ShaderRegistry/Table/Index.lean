import ShaderRegistry.LowerBound
import ShaderRegistry.Table.Fault

/-! # Looking up targets

An index holds the entries of a table beside their keys, and finds a target by a binary
search for its key.
-/

namespace ShaderRegistry.Table

structure Index where
  entries : Array Profile
  keys : Array Int
  keys_eq : keys = entries.map fun entry => entry.key

namespace Index

def ofEntries (entries : List Profile) : Index where
  entries := entries.toArray
  keys := entries.toArray.map fun entry => entry.key
  keys_eq := rfl

/-- The index of a table leaves out the profile that closes it. -/
def ofTable (table : Table) : Index :=
  ofEntries table.dropLast

/-- The entry with this target. Equal keys do not suffice, since components that are out
of range can run into the key of another target. -/
def find? (index : Index) (target : Target) : Option Profile :=
  let position := lowerBound index.keys target.key
  if index.keys[position]? = some target.key then
    index.entries[position]?.filter fun entry => entry.toTarget = target
  else none

/-- The entry with this target, the invalid profile when there is none. -/
def resolve (index : Index) (target : Target) : Profile :=
  (index.find? target).getD .invalid

/-- Whatever the index finds is one of its entries and has the target asked for. -/
theorem find?_sound {index : Index} {target : Target} {entry : Profile}
    (hfound : index.find? target = some entry) :
    entry ∈ index.entries ∧ entry.toTarget = target := by
  simp only [find?] at hfound
  split at hfound
  · obtain ⟨hentry, htarget⟩ := Option.filter_eq_some_iff.mp hfound
    exact ⟨Array.mem_of_getElem? hentry, by simpa using htarget⟩
  · cases hfound

end Index

end ShaderRegistry.Table
