import ShaderRegistry.Capability
import ShaderRegistry.Diagnostic
import ShaderRegistry.Lookup

/-! # Configurations

The options as the user gave them, the reasons to refuse them, and the configuration
that remains when there is none.
-/

namespace ShaderRegistry

structure Options where
  listProfiles : Bool := false
  listKinds : Bool := false
  info : Option String := none
  kind : Option String := none
  deriving DecidableEq

/-- Why options are refused. -/
inductive Refusal where
  | missingCommand
  | invalidProfile (name : String)
  | unknownKind (name : String)
  /-- A kind only makes sense as a filter of the listed profiles. -/
  | kindWithoutList
  deriving DecidableEq

def Refusal.diagnostic : Refusal → Diagnostic
  | .missingCommand =>
    ⟨.missingCommand, "No command given.",
      some "Pass one of --list-profiles, --list-kinds or --info PROFILE."⟩
  | .invalidProfile name =>
    ⟨.invalidProfile, "Unknown shader profile: " ++ name,
      some "Profiles look like <stage>_<major>_<minor> (for example ps_6_6 or lib_6_x)."⟩
  | .unknownKind name =>
    ⟨.unknownKind, "Unknown shader kind: " ++ name,
      some "Use a short name (ps, cs, lib) or a full name (pixel, compute)."⟩
  | .kindWithoutList =>
    ⟨.kindWithoutList, "--kind requires --list-profiles.",
      some "Add --list-profiles or remove --kind."⟩

inductive Command where
  | listProfiles
  | listKinds
  | info
  deriving DecidableEq

namespace Command

def name : Command → String
  | listProfiles => "list-profiles"
  | listKinds => "list-kinds"
  | info => "info"

/-- The command that a name asks for. A name that asks for no list asks for a profile. -/
def ofName (name : String) : Command :=
  if name = "list-profiles" then listProfiles
  else if name = "list-kinds" then listKinds
  else info

@[simp] theorem ofName_name (command : Command) : ofName command.name = command := by
  cases command <;> decide

end Command

structure Config where
  command : Command
  /-- The kind to which the listed profiles are restricted. -/
  kindFilter : Option Kind := none
  /-- The profile to describe. -/
  infoProfile : Option Profile := none

/-- The profile that a user named. -/
def namedProfile (name : String) : Except Refusal Profile :=
  let profile := Catalog.lookup name
  if profile.isValid then .ok profile else .error (.invalidProfile name)

/-- The kind that a user named by its full or, failing that, its short name. -/
def namedKind (name : String) : Except Refusal Kind :=
  let full := Kind.ofFullName name
  let kind := if full = .invalid then Kind.ofShortName name else full
  if kind = .invalid then .error (.unknownKind name) else .ok kind

/-- The configuration that options ask for. A list of profiles goes before a list of kinds
and both before a single profile. -/
def Options.validate (options : Options) : Except Refusal Config :=
  if options.kind.isSome && !options.listProfiles then .error .kindWithoutList
  else if options.listProfiles then
    match options.kind with
    | none => .ok { command := .listProfiles }
    | some name => do
      let kind ← namedKind name
      return { command := .listProfiles, kindFilter := some kind }
  else if options.listKinds then .ok { command := .listKinds }
  else
    match options.info with
    | some name => do
      let profile ← namedProfile name
      return { command := .info, infoProfile := some profile }
    | none => .error .missingCommand

end ShaderRegistry
