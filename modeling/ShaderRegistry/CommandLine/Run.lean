import ShaderRegistry.CommandLine.Parse
import ShaderRegistry.Report

/-! # Running a command line

What a command line prints and with which code the program ends: zero for an answer or
for help, one for options that are refused, two for a command line that cannot be read.
-/

namespace ShaderRegistry.CommandLine

structure Outcome where
  exitCode : UInt32
  output : String
  errors : String
  deriving DecidableEq

def Stop.outcome : Stop → Outcome
  | .help => ⟨0, helpText, ""⟩
  | .usage error => ⟨2, "", error.text⟩

def run (arguments : List String) (edition : Edition := .earlier) : Outcome :=
  match parse arguments edition with
  | .error stop => stop.outcome
  | .ok options =>
    match options.validate with
    | .error refusal => ⟨1, refusal.diagnostic.text, ""⟩
    | .ok config =>
      match config.report with
      | .error violation => ⟨1, "", violation.message ++ "\n"⟩
      | .ok text => ⟨0, text, ""⟩

end ShaderRegistry.CommandLine
