import ShaderRegistry.CommandLine.Usage
import ShaderRegistry.Text.Digit

/-! # Tokens

What each argument of a command line is, before any of them takes effect: a switch, a
plain value, or neither. All arguments are told apart first, so that an ambiguous
abbreviation spoils the whole command line wherever it stands.
-/

namespace ShaderRegistry.CommandLine

inductive Token where
  | value (text : String)
  /-- The first `--`, behind which everything is a plain value. -/
  | separator
  /-- A long switch, or help by its short name, with the value attached to it. -/
  | switch (switch : Switch) (attached : Option String)
  /-- The short name of help with more text behind it. -/
  | cluster (tail : List Char)
  /-- An argument in the form of a switch that is none. -/
  | unknown (text : String)
  deriving DecidableEq

namespace Token

/-- Digits, perhaps with a point before the last of them. -/
def isUnsigned (text : List Char) : Bool :=
  let whole := text.takeWhile Text.isDigit
  match text.dropWhile Text.isDigit with
  | [] => whole ≠ []
  | point :: fraction => point = '.' && fraction ≠ [] && fraction.all Text.isDigit

/-- A minus sign and a number behind it. A single line feed at the end is overlooked. -/
def isNegativeNumber : List Char → Bool
  | '-' :: number =>
    isUnsigned (if number.getLast? = some '\n' then number.dropLast else number)
  | _ => false

/-- An argument that opens with a minus sign without naming a switch. It still is a value
if it looks like a negative number or has a space in it. -/
def unmatched (argument : String) : Token :=
  if isNegativeNumber argument.toList || ' ' ∈ argument.toList then .value argument
  else .unknown argument

/-- The name of a long switch and the value attached to it by an equals sign. -/
def splitAttached (argument : List Char) : List Char × Option String :=
  let name := argument.takeWhile (· ≠ '=')
  match argument.dropWhile (· ≠ '=') with
  | [] => (name, none)
  | _ :: rest => (name, some (String.ofList rest))

/-- The switches that a name may abbreviate. -/
def candidates (name : List Char) : List Switch :=
  Switch.all.filter fun candidate => name.isPrefixOf candidate.longName.toList

def ofLong (argument : String) : Except UsageError Token :=
  let (name, attached) := splitAttached argument.toList
  match candidates name with
  | [] => .ok (unmatched argument)
  | [only] => .ok (.switch only attached)
  | several => .error (.ambiguous argument several)

/-- A token by itself, where no `--` precedes it. -/
def ofArgument (argument : String) : Except UsageError Token :=
  match argument.toList with
  | '-' :: '-' :: _ => ofLong argument
  | ['-', 'h'] => .ok (.switch .help none)
  | '-' :: 'h' :: tail => .ok (.cluster tail)
  | ['-'] => .ok (.value argument)
  | '-' :: _ => .ok (unmatched argument)
  | _ => .ok (.value argument)

def ofArguments : List String → Except UsageError (List Token)
  | [] => .ok []
  | argument :: rest =>
    if argument = "--" then .ok (.separator :: rest.map .value)
    else do
      let token ← ofArgument argument
      let tokens ← ofArguments rest
      return token :: tokens

end Token

end ShaderRegistry.CommandLine
