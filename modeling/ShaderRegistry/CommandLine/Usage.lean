import ShaderRegistry.CommandLine.Switch
import ShaderRegistry.Text.Quoted

/-! # Usage

The help text, and the ways in which arguments fail to be a command line.
-/

namespace ShaderRegistry.CommandLine

def programName : String := "shader_model.py"

def usage : String :=
  "usage: " ++ programName ++ " [-h] [--list-profiles | --list-kinds | --info INFO]\n" ++
  "                       [--kind KIND]\n"

def helpText : String :=
  usage ++
  "\n" ++
  "Inspect the DXIL shader model registry\n" ++
  "\n" ++
  "options:\n" ++
  "  -h, --help       show this help message and exit\n" ++
  "  --list-profiles\n" ++
  "  --list-kinds\n" ++
  "  --info INFO\n" ++
  "  --kind KIND\n"

inductive UsageError where
  /-- An abbreviation fits several switches. -/
  | ambiguous (argument : String) (candidates : List Switch)
  | missingValue (switch : Switch)
  /-- A value is attached to a switch that takes none. -/
  | unexpectedValue (switch : Switch) (value : String)
  /-- A command is chosen after another one. -/
  | conflict (switch earlier : Switch)
  | unrecognized (arguments : List String)
  deriving DecidableEq

namespace UsageError

def about (switch : Switch) (complaint : String) : String :=
  "argument " ++ switch.label ++ ": " ++ complaint

def message : UsageError → String
  | ambiguous argument candidates =>
    "ambiguous option: " ++ argument ++ " could match " ++
      ", ".intercalate (candidates.map Switch.longName)
  | missingValue switch => about switch "expected one argument"
  | unexpectedValue switch value =>
    about switch ("ignored explicit argument " ++ Text.quoted value)
  | conflict switch earlier => about switch ("not allowed with argument " ++ earlier.label)
  | unrecognized arguments => "unrecognized arguments: " ++ " ".intercalate arguments

/-- What the user gets to read. -/
def text (error : UsageError) : String :=
  usage ++ programName ++ ": error: " ++ error.message ++ "\n"

end UsageError

end ShaderRegistry.CommandLine
