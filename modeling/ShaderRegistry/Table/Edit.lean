import ShaderRegistry.Table.Fault

/-! # Editing tables

Single changes to a table and what a table goes through while they are made. An edit
does not look at the order of the table, so every state has to be checked anew.
-/

namespace ShaderRegistry.Table

/-- A change of a table. Positions count from zero, and one out of range changes nothing. -/
inductive Edit where
  /-- Puts an entry before the one at the position, or at the end. -/
  | insert (position : Nat) (entry : Profile)
  | remove (position : Nat)
  | replace (position : Nat) (entry : Profile)
  | swap (first second : Nat)
  | reverse
  /-- Sorts by ascending key; entries of one key keep their order. -/
  | sort

def swap (table : Table) (first second : Nat) : Table :=
  match table[first]?, table[second]? with
  | some left, some right => (table.set first right).set second left
  | _, _ => table

def sort (table : Table) : Table :=
  table.mergeSort fun left right => left.key ≤ right.key

def edit (table : Table) : Edit → Table
  | .insert position entry => table.insertIdx position entry
  | .remove position => table.eraseIdx position
  | .replace position entry => table.set position entry
  | .swap first second => table.swap first second
  | .reverse => table.reverse
  | .sort => table.sort

/-- The table at the start and after each of the edits. -/
def history (table : Table) : List Edit → List Table
  | [] => [table]
  | change :: rest => table :: history (table.edit change) rest

theorem sort_perm (table : Table) : table.sort.Perm table :=
  List.mergeSort_perm _ _

theorem sort_sorted (table : Table) :
    table.sort.Pairwise fun left right => left.key ≤ right.key := by
  have hsorted : table.sort.Pairwise fun left right => decide (left.key ≤ right.key) := by
    apply List.pairwise_mergeSort
    · intro first second third hlower hupper
      simp only [decide_eq_true_eq] at *
      exact Int.le_trans hlower hupper
    · intro first second
      simp only [Bool.or_eq_true, decide_eq_true_eq]
      exact Int.le_total _ _
  simpa using hsorted

end ShaderRegistry.Table
