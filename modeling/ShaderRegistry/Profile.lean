import ShaderRegistry.Target

/-! # Profiles

A target together with its name and its limits on resources.
-/

namespace ShaderRegistry

/-- How many registers of a sort a profile offers. -/
inductive RegisterCount where
  | limited (slots : Int)
  | unlimited
  deriving DecidableEq

def RegisterCount.text : RegisterCount → String
  | limited slots => toString slots
  | unlimited => "unlimited"

structure Profile extends Target where
  name : String
  /-- Input register slots, zero for a stage without any. -/
  inputRegisters : Int
  /-- Output register slots, zero for a stage without any. -/
  outputRegisters : Int
  /-- Whether loads from typed unordered access views are supported. -/
  typedUavs : Bool
  uavRegisters : RegisterCount
  deriving DecidableEq

namespace Profile

/-- The record that closes every table and stands for a profile that does not exist. -/
def invalid : Profile where
  kind := .invalid
  major := 0
  minor := .numeric 0
  name := "invalid"
  inputRegisters := 0
  outputRegisters := 0
  typedUavs := false
  uavRegisters := .limited 0

end Profile

end ShaderRegistry
