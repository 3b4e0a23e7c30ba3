import ShaderRegistry.Catalog
import ShaderRegistry.ProfileName

/-! # Profiles by name

The profile that a name stands for. A name is read first and its target looked up then,
so a well formed name without a profile is as unknown as a malformed one.
-/

namespace ShaderRegistry.Catalog

/-- The profile with this name, the invalid profile when there is none. -/
def lookup (name : String) : Profile :=
  match ProfileName.target? name with
  | some target => resolve target
  | none => .invalid

end ShaderRegistry.Catalog
