/-! # Lower bounds in ascending keys

A binary search for the first key that is not below a given one. In ascending keys
everything before the answer is below the given key and nothing from there on is.
-/

namespace ShaderRegistry

/-- The first index whose key is not below `key`, the number of keys when all are. -/
def lowerBound (keys : Array Int) (key : Int) : Nat :=
  search 0 keys.size (Nat.le_refl _)
where
  /-- Halves the interval from `low` up to `high`, which holds the answer. -/
  search (low high : Nat) (hinside : high ≤ keys.size) : Nat :=
    if hnonempty : low < high then
      have hmiddle : (low + high) / 2 < high := by omega
      if keys[(low + high) / 2] < key then search ((low + high) / 2 + 1) high hinside
      else search low ((low + high) / 2) (by omega)
    else low
  termination_by high - low

namespace lowerBound

variable {keys : Array Int} {key : Int}

theorem search_mem {low high : Nat} (hinside : high ≤ keys.size) (horder : low ≤ high) :
    low ≤ search keys key low high hinside ∧ search keys key low high hinside ≤ high := by
  fun_induction search keys key low high hinside with
  | case1 low high hinside hnonempty hmiddle hbelow ih => have := ih (by omega); omega
  | case2 low high hinside hnonempty hmiddle habove ih => have := ih (by omega); omega
  | case3 low high hinside hempty => omega

/-- The search keeps what it knows of both sides: all keys before the interval are below
the one sought, and none from its end on is. -/
theorem search_splits {low high : Nat} (hinside : high ≤ keys.size) (horder : low ≤ high)
    (hsorted : keys.toList.Pairwise (· ≤ ·))
    (hleft : ∀ (index : Nat) (hindex : index < keys.size), index < low → keys[index] < key)
    (hright : ∀ (index : Nat) (hindex : index < keys.size), high ≤ index → key ≤ keys[index])
    (index : Nat) (hindex : index < keys.size) :
    keys[index] < key ↔ index < search keys key low high hinside := by
  have hmono : ∀ (first second : Nat) (hsecond : second < keys.size) (hle : first ≤ second),
      keys[first] ≤ keys[second] := by
    intro first second hsecond hle
    rcases Nat.lt_or_eq_of_le hle with hlt | rfl
    · rw [← Array.getElem_toList, ← Array.getElem_toList]
      exact List.pairwise_iff_getElem.mp hsorted first second _ _ hlt
    · exact Int.le_refl _
  fun_induction search keys key low high hinside with
  | case1 low high hinside hnonempty hmiddle hbelow ih =>
    refine ih (by omega) (fun position hposition hbefore => ?_) hright hmono
    have := hmono position ((low + high) / 2) (by omega) (by omega)
    omega
  | case2 low high hinside hnonempty hmiddle habove ih =>
    refine ih (by omega) hleft (fun position hposition hafter => ?_) hmono
    have := hmono ((low + high) / 2) position hposition hafter
    omega
  | case3 low high hinside hempty =>
    constructor
    · intro hbelow
      by_cases hbefore : index < low
      · exact hbefore
      · have := hright index hindex (by omega)
        omega
    · exact hleft index hindex

end lowerBound

theorem lowerBound_le_size (keys : Array Int) (key : Int) : lowerBound keys key ≤ keys.size :=
  (lowerBound.search_mem _ (Nat.zero_le _)).2

/-- In sorted keys exactly those before the lower bound are below the key sought. -/
theorem lt_key_iff_lt_lowerBound {keys : Array Int} {key : Int}
    (hsorted : keys.toList.Pairwise (· ≤ ·)) (index : Nat) (hindex : index < keys.size) :
    keys[index] < key ↔ index < lowerBound keys key :=
  lowerBound.search_splits _ (Nat.zero_le _) hsorted (fun _ _ hbefore => by omega)
    (fun _ _ hafter => by omega) index hindex

end ShaderRegistry
