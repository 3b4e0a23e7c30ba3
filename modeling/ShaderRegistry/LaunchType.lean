import ShaderRegistry.Text.LowerCase

/-! # Launch types of node shaders

The three ways in which a node shader is launched, and their names, which are read
without regard to case.
-/

namespace ShaderRegistry

inductive LaunchType where
  | invalid
  | broadcasting
  | coalescing
  | thread
  deriving DecidableEq

namespace LaunchType

def all : List LaunchType :=
  [invalid, broadcasting, coalescing, thread]

/-- The launch types that a name can ask for. -/
def modes : List LaunchType :=
  [broadcasting, coalescing, thread]

def ordinal : LaunchType → Nat
  | invalid => 0
  | broadcasting => 1
  | coalescing => 2
  | thread => 3

def ofOrdinal? (ordinal : Int) : Option LaunchType :=
  all.find? fun mode => (mode.ordinal : Int) = ordinal

/-- The complaint about a number that is the ordinal of no launch type. -/
def unknownOrdinal (ordinal : Int) : String :=
  toString ordinal ++ " is not a valid NodeLaunchType"

def name : LaunchType → String
  | invalid => "invalid"
  | broadcasting => "broadcasting"
  | coalescing => "coalescing"
  | thread => "thread"

/-- The launch mode with this name in any case, `invalid` for every other text. -/
def ofName (text : String) : LaunchType :=
  (modes.find? fun mode => mode.name.toList = Text.lower text.toList).getD invalid

@[simp] theorem ofOrdinal?_ordinal (mode : LaunchType) :
    ofOrdinal? mode.ordinal = some mode := by
  cases mode <;> decide

@[simp] theorem ofName_name (mode : LaunchType) : ofName mode.name = mode := by
  cases mode <;> decide

end LaunchType

end ShaderRegistry
