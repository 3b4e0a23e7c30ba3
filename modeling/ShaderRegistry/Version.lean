/-! # Versions

Pairs of a major and a minor number, compared by the major number first.
-/

namespace ShaderRegistry

structure Version where
  major : Int
  minor : Int
  deriving DecidableEq

namespace Version

def text (version : Version) : String :=
  toString version.major ++ "." ++ toString version.minor

instance : LE Version where
  le first second :=
    first.major < second.major ∨ first.major = second.major ∧ first.minor ≤ second.minor

theorem le_iff {first second : Version} :
    first ≤ second ↔
      first.major < second.major ∨
        first.major = second.major ∧ first.minor ≤ second.minor :=
  Iff.rfl

instance (first second : Version) : Decidable (first ≤ second) :=
  decidable_of_iff _ le_iff.symm

theorem le_refl (version : Version) : version ≤ version :=
  Or.inr ⟨rfl, Int.le_refl _⟩

theorem le_trans {first second third : Version} (hlower : first ≤ second)
    (hupper : second ≤ third) : first ≤ third := by
  simp only [le_iff] at *
  omega

theorem le_total (first second : Version) : first ≤ second ∨ second ≤ first := by
  simp only [le_iff]
  omega

end Version

end ShaderRegistry
