import ShaderRegistry.CommandLine.Token

/-! # Reading a command line

Tokens take effect from left to right. Whatever belongs to no switch is left over, and a
command line is only accepted when nothing is.
-/

namespace ShaderRegistry.CommandLine

/-- Why a command line yields no options. -/
inductive Stop where
  | help
  | usage (error : UsageError)
  deriving DecidableEq

/-- What is known after some of the tokens. -/
structure Progress where
  options : Options := {}
  /-- The switch that chose a command. -/
  chosen : Option Switch := none
  leftOver : List String := []
  deriving DecidableEq

namespace Progress

def leave (progress : Progress) (argument : String) : Progress :=
  { progress with leftOver := progress.leftOver ++ [argument] }

/-- Makes a setting, unless it chooses a command after another one has been chosen. -/
def set (progress : Progress) (setting : Setting) : Except Stop Progress :=
  let made := { progress with options := progress.options.set setting }
  if setting.switch.choosesCommand then
    match progress.chosen with
    | none => .ok { made with chosen := some setting.switch }
    | some earlier =>
      if earlier = setting.switch then .ok made
      else .error (.usage (.conflict setting.switch earlier))
  else .ok made

end Progress

/-- The editions of the reader. They part only over what stands behind the short name of help
in the same argument, and where none is named the earlier one is meant. -/
inductive Edition where
  | earlier
  | later
  deriving DecidableEq

/-- The short name of help may be repeated. Anything else behind it is taken for a value,
which help does not have. -/
def repeatedStop (tail : List Char) : Stop :=
  let value := tail.dropWhile (· = 'h')
  if tail ≠ [] ∧ value = [] then .help
  else .usage (.unexpectedValue .help (String.ofList value))

/-- An equals sign right behind the short name makes no difference. -/
def earlierClusterStop : List Char → Stop
  | '=' :: tail => repeatedStop tail
  | tail => repeatedStop tail

/-- The short name may be repeated, and a value is what stands behind an equals sign or
opens with a minus sign. Any other text is left over, but help is shown before that counts. -/
def laterClusterStop (tail : List Char) : Stop :=
  match tail.dropWhile (· = 'h') with
  | '=' :: value => .usage (.unexpectedValue .help (String.ofList value))
  | '-' :: rest => .usage (.unexpectedValue .help (String.ofList ('-' :: rest)))
  | _ => .help

def clusterStop : Edition → List Char → Stop
  | .earlier => earlierClusterStop
  | .later => laterClusterStop

def consume (edition : Edition) (progress : Progress) : List Token → Except Stop Progress
  | [] => .ok progress
  | .value text :: rest => consume edition (progress.leave text) rest
  | .unknown text :: rest => consume edition (progress.leave text) rest
  | .separator :: rest => consume edition (progress.leave "--") rest
  | .cluster tail :: _ => .error (clusterStop edition tail)
  | .switch .help none :: _ => .error .help
  | .switch .listProfiles none :: rest => do consume edition (← progress.set .listProfiles) rest
  | .switch .listKinds none :: rest => do consume edition (← progress.set .listKinds) rest
  | .switch .info (some name) :: rest => do consume edition (← progress.set (.info name)) rest
  | .switch .kind (some name) :: rest => do consume edition (← progress.set (.kind name)) rest
  | .switch switch (some value) :: _ => .error (.usage (.unexpectedValue switch value))
  | .switch .info none :: .value name :: rest => do
    consume edition (← progress.set (.info name)) rest
  | .switch .kind none :: .value name :: rest => do
    consume edition (← progress.set (.kind name)) rest
  | .switch switch none :: _ => .error (.usage (.missingValue switch))

/-- The options that a command line gives. -/
def parse (arguments : List String) (edition : Edition := .earlier) : Except Stop Options := do
  let tokens ← (Token.ofArguments arguments).mapError .usage
  let progress ← consume edition {} tokens
  match progress.leftOver with
  | [] => return progress.options
  | leftOver => throw (.usage (.unrecognized leftOver))

end ShaderRegistry.CommandLine
