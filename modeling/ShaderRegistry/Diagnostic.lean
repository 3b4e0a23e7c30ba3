/-! # Diagnostics

What the user is told when a request is refused: a code from a fixed list, a message,
and perhaps a hint at what to do instead.
-/

namespace ShaderRegistry

inductive ErrorCode where
  | invalidProfile
  | kindWithoutList
  | missingCommand
  | unknownKind
  deriving DecidableEq

namespace ErrorCode

def text : ErrorCode → String
  | invalidProfile => "INVALID_PROFILE"
  | kindWithoutList => "KIND_WITHOUT_LIST"
  | missingCommand => "MISSING_COMMAND"
  | unknownKind => "UNKNOWN_KIND"

/-- Every code, in the order of the texts. -/
def all : List ErrorCode :=
  [invalidProfile, kindWithoutList, missingCommand, unknownKind]

def ofText? (text : String) : Option ErrorCode :=
  all.find? fun code => code.text = text

@[simp] theorem ofText?_text (code : ErrorCode) : ofText? code.text = some code := by
  cases code <;> decide

end ErrorCode

structure Diagnostic where
  code : ErrorCode
  message : String
  suggestion : Option String

namespace Diagnostic

/-- A code that is not on the list. -/
structure UnknownCode where
  code : String

def UnknownCode.message (unknown : UnknownCode) : String :=
  "Unknown config error code: " ++ unknown.code

/-- The diagnostic with a code given by its text. -/
def ofText (code message : String) (suggestion : Option String) :
    Except UnknownCode Diagnostic :=
  match ErrorCode.ofText? code with
  | some code => .ok { code, message, suggestion }
  | none => .error ⟨code⟩

/-- The line of the hint, nothing at all for an empty hint. -/
def hint : Option String → String
  | none => ""
  | some suggestion => if suggestion = "" then "" else "Hint: " ++ suggestion ++ "\n"

def text (diagnostic : Diagnostic) : String :=
  "Config error [" ++ diagnostic.code.text ++ "]: " ++ diagnostic.message ++ "\n" ++
    hint diagnostic.suggestion

end Diagnostic

end ShaderRegistry
