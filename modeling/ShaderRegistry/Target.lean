import ShaderRegistry.Bits
import ShaderRegistry.Kind
import ShaderRegistry.Version

/-! # Targets

What a profile aims at: a stage and a shader model version. A target has a canonical
name and a key, a single number by which tables are sorted and searched.
-/

namespace ShaderRegistry

/-- The minor version of a shader model. Profiles with the minor `offline` serve only to
link libraries ahead of time. -/
inductive Minor where
  | numeric (number : Int)
  | offline
  deriving DecidableEq

namespace Minor

/-- The greatest numeric minor of shader model 6. -/
def highest : Int := 8

/-- The number that stands for the offline minor in keys and comparisons. -/
def offlineCode : Int := 15

def code : Minor → Int
  | numeric number => number
  | offline => offlineCode

def text : Minor → String
  | numeric number => toString number
  | offline => "x"

end Minor

structure Target where
  kind : Kind
  major : Int
  minor : Minor
  deriving DecidableEq

namespace Target

def canonicalName (target : Target) : String :=
  target.kind.shortName ++ "_" ++ toString target.major ++ "_" ++ target.minor.text

/-- The ordinal of the kind above bit 16, the major version above bit 8 and the code of
the minor below. Components outside of `0 … 255` run into each other, so that distinct
targets can share a key. -/
def key (target : Target) : Int :=
  Bits.union
    (Bits.union ((target.kind.ordinal : Int) <<< (16 : Nat)) (target.major <<< (8 : Nat)))
    target.minor.code

/-- The shader model version, with the offline minor by its code. -/
def version (target : Target) : Version :=
  ⟨target.major, target.minor.code⟩

end Target

end ShaderRegistry
