import ShaderRegistry.CommandLine.Run

open ShaderRegistry in
/-- Prints what the command line asks for. -/
def main (arguments : List String) : IO UInt32 := do
  let outcome := CommandLine.run arguments
  IO.print outcome.output
  IO.eprint outcome.errors
  return outcome.exitCode
