/-! # Shader kinds

The stages of a shader pipeline, the ordinals that sort them, and the short and
full spellings by which they are known.
-/

namespace ShaderRegistry

/-- A shader stage. `invalid` stands for no stage at all. -/
inductive Kind where
  | pixel
  | vertex
  | geometry
  | hull
  | domain
  | compute
  | library
  | rayGeneration
  | intersection
  | anyHit
  | closestHit
  | miss
  | callable
  | mesh
  | amplification
  | node
  | invalid
  deriving DecidableEq

namespace Kind

/-- Every kind, in the order of the ordinals. -/
def all : List Kind :=
  [pixel, vertex, geometry, hull, domain, compute, library, rayGeneration, intersection,
    anyHit, closestHit, miss, callable, mesh, amplification, node, invalid]

/-- The ordinal of a kind is part of every profile key and therefore fixed. -/
def ordinal : Kind → Nat
  | pixel => 0
  | vertex => 1
  | geometry => 2
  | hull => 3
  | domain => 4
  | compute => 5
  | library => 6
  | rayGeneration => 7
  | intersection => 8
  | anyHit => 9
  | closestHit => 10
  | miss => 11
  | callable => 12
  | mesh => 13
  | amplification => 14
  | node => 15
  | invalid => 16

def ofOrdinal? (ordinal : Int) : Option Kind :=
  all.find? fun kind => (kind.ordinal : Int) = ordinal

/-- The complaint about a number that is the ordinal of no kind. -/
def unknownOrdinal (ordinal : Int) : String :=
  toString ordinal ++ " is not a valid ShaderKind"

/-- The short name, which for a stage with profiles also opens the profile names. -/
def shortName : Kind → String
  | pixel => "ps"
  | vertex => "vs"
  | geometry => "gs"
  | hull => "hs"
  | domain => "ds"
  | compute => "cs"
  | library => "lib"
  | rayGeneration => "raygeneration"
  | intersection => "intersection"
  | anyHit => "anyhit"
  | closestHit => "closesthit"
  | miss => "miss"
  | callable => "callable"
  | mesh => "ms"
  | amplification => "as"
  | node => "node"
  | invalid => "invalid"

/-- The spelling used in a shader attribute, which a library cannot have. -/
def fullName? : Kind → Option String
  | pixel => some "pixel"
  | vertex => some "vertex"
  | geometry => some "geometry"
  | hull => some "hull"
  | domain => some "domain"
  | compute => some "compute"
  | library => none
  | rayGeneration => some "raygeneration"
  | intersection => some "intersection"
  | anyHit => some "anyhit"
  | closestHit => some "closesthit"
  | miss => some "miss"
  | callable => some "callable"
  | mesh => some "mesh"
  | amplification => some "amplification"
  | node => some "node"
  | invalid => none

/-- The name of a kind in a sentence, where a library goes by its own. -/
def label (kind : Kind) : String :=
  kind.fullName?.getD "library"

/-- The kind with this short name, `invalid` when there is none. -/
def ofShortName (name : String) : Kind :=
  (all.find? fun kind => kind.shortName = name).getD invalid

/-- The kind with this full name, `invalid` when there is none. -/
def ofFullName (name : String) : Kind :=
  (all.find? fun kind => kind.fullName? = some name).getD invalid

/-- The kinds that have profiles of their own, in the order in which a profile name is
matched against them. -/
def profiled : List Kind :=
  [pixel, vertex, geometry, hull, domain, compute, library, mesh, amplification]

theorem mem_all (kind : Kind) : kind ∈ all := by
  cases kind <;> decide

theorem ordinal_lt (kind : Kind) : kind.ordinal < 17 := by
  cases kind <;> decide

theorem ordinal_injective {first second : Kind} (hsame : first.ordinal = second.ordinal) :
    first = second := by
  cases first <;> cases second <;> first | rfl | cases hsame

@[simp] theorem ofOrdinal?_ordinal (kind : Kind) : ofOrdinal? kind.ordinal = some kind := by
  cases kind <;> decide

@[simp] theorem ofShortName_shortName (kind : Kind) : ofShortName kind.shortName = kind := by
  cases kind <;> decide

theorem shortName_injective {first second : Kind}
    (hsame : first.shortName = second.shortName) : first = second := by
  rw [← ofShortName_shortName first, hsame, ofShortName_shortName]

theorem shortName_ofShortName {name : String} (hknown : ofShortName name ≠ invalid) :
    (ofShortName name).shortName = name := by
  unfold ofShortName at hknown ⊢
  cases hfound : all.find? fun kind => kind.shortName = name with
  | none => simp [hfound] at hknown
  | some kind => simpa using List.find?_some hfound

theorem fullName?_ofFullName {name : String} (hknown : ofFullName name ≠ invalid) :
    (ofFullName name).fullName? = some name := by
  unfold ofFullName at hknown ⊢
  cases hfound : all.find? fun kind => kind.fullName? = some name with
  | none => simp [hfound] at hknown
  | some kind => simpa using List.find?_some hfound

theorem ofFullName_fullName {kind : Kind} {name : String} (hfull : kind.fullName? = some name) :
    ofFullName name = kind := by
  cases kind <;> cases hfull <;> decide

end Kind

end ShaderRegistry
