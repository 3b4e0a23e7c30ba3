import ShaderRegistry.Config

/-! # Switches

The switches of the command line and the settings that they make.
-/

namespace ShaderRegistry.CommandLine

inductive Switch where
  | help
  | listProfiles
  | listKinds
  | info
  | kind
  deriving DecidableEq

namespace Switch

/-- Every switch, in the order in which abbreviations are matched against them. -/
def all : List Switch :=
  [help, listProfiles, listKinds, info, kind]

def longName : Switch → String
  | help => "--help"
  | listProfiles => "--list-profiles"
  | listKinds => "--list-kinds"
  | info => "--info"
  | kind => "--kind"

/-- How messages name a switch. Help alone has a short name. -/
def label : Switch → String
  | help => "-h/--help"
  | switch => switch.longName

/-- Of the switches that choose a command only one may be given. -/
def choosesCommand : Switch → Bool
  | listProfiles | listKinds | info => true
  | help | kind => false

theorem mem_all (switch : Switch) : switch ∈ all := by
  cases switch <;> decide

end Switch

/-- A switch together with its value, as far as it takes one. -/
inductive Setting where
  | listProfiles
  | listKinds
  | info (name : String)
  | kind (name : String)
  deriving DecidableEq

def Setting.switch : Setting → Switch
  | listProfiles => .listProfiles
  | listKinds => .listKinds
  | info _ => .info
  | kind _ => .kind

end CommandLine

/-- The options once a setting is made. A later value takes the place of an earlier one. -/
def Options.set (options : Options) : CommandLine.Setting → Options
  | .listProfiles => { options with listProfiles := true }
  | .listKinds => { options with listKinds := true }
  | .info name => { options with info := some name }
  | .kind name => { options with kind := some name }

end ShaderRegistry
