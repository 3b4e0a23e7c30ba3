import ShaderRegistry.Target

/-! # Profile names

A profile name is the short name of a stage, a major version and a minor version, parted
by underscores, where each version is a single character. Reading a name yields a target
and does not ask whether a profile with this target exists.
-/

namespace ShaderRegistry.ProfileName

/-- The stage at the front of a name and what follows its underscore. -/
def stage? (name : List Char) : Option (Kind × List Char) :=
  Kind.profiled.findSome? fun kind =>
    (List.isPrefixOf? (kind.shortName.toList ++ ['_']) name).map (kind, ·)

def major? : Char → Option Int
  | '4' => some 4
  | '5' => some 5
  | '6' => some 6
  | _ => none

/-- The minors that no shader model before 6 has. -/
def laterMinor? : Char → Option Int
  | '2' => some 2
  | '3' => some 3
  | '4' => some 4
  | '5' => some 5
  | '6' => some 6
  | '7' => some 7
  | '8' => some 8
  | _ => none

/-- Only libraries of shader model 6 have an offline minor, written as an x. -/
def minor? (kind : Kind) (major : Int) (char : Char) : Option Minor :=
  if char = '0' then some (.numeric 0)
  else if char = '1' then some (.numeric 1)
  else if char = 'x' then
    if kind = .library ∧ major = 6 then some .offline else none
  else if major = 6 then (laterMinor? char).map .numeric
  else none

/-- The target of a stage whose version is written like this. -/
def version? (kind : Kind) : List Char → Option Target
  | [majorChar, '_', minorChar] => do
    let major ← major? majorChar
    let minor ← minor? kind major minorChar
    return { kind, major, minor }
  | _ => none

def target? (name : String) : Option Target := do
  let (kind, version) ← stage? name.toList
  version? kind version

theorem mem_profiled_of_stage? {name rest : List Char} {kind : Kind}
    (hstage : stage? name = some (kind, rest)) : kind ∈ Kind.profiled := by
  obtain ⟨candidate, hmem, hmatch⟩ := List.exists_of_findSome?_eq_some hstage
  obtain ⟨_, _, heq⟩ := Option.map_eq_some_iff.mp hmatch
  cases heq
  exact hmem

end ShaderRegistry.ProfileName
