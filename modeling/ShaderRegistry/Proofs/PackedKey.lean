import Mathlib.Tactic.Tauto
import ShaderRegistry.Catalog
import ShaderRegistry.Proofs.Bits
import ShaderRegistry.Proofs.Table.Accepted

/-! # What the key of a target holds

The parts of a target are joined bit by bit and never added, so that a part out of range
spills into the bits of its neighbours without a carry. Where every part fits a byte the
key is a numeral in base 256, and its order is that of stage, major and minor.
-/

namespace ShaderRegistry

namespace Target

theorem bit_key (target : Target) (position : Nat) :
    Bits.bit target.key position =
      (Bits.bit ((target.kind.ordinal : Int) <<< (16 : Nat)) position ||
        Bits.bit (target.major <<< (8 : Nat)) position || Bits.bit target.minor.code position) := by
  rw [key, Bits.bit_union, Bits.bit_union]

theorem key_shiftRight_sixteen (target : Target) :
    target.key >>> (16 : Nat) =
      Int.lor (Int.lor target.kind.ordinal (target.major >>> (8 : Nat)))
        (target.minor.code >>> (16 : Nat)) := by
  apply Bits.eq_of_bit_eq
  intro position
  have hkind : 16 ≤ 16 + position := Nat.le_add_right _ _
  have hmajor : 8 ≤ 16 + position := by omega
  have hposition : 16 + position - 8 = 8 + position := by omega
  rw [Bits.bit_shiftRight, bit_key, Bits.bit_shiftLeft_of_le _ hkind,
    Bits.bit_shiftLeft_of_le _ hmajor, hposition, Nat.add_sub_cancel_left, Bits.bit_lor,
    Bits.bit_lor, Bits.bit_shiftRight, Bits.bit_shiftRight]

theorem key_middle_byte (target : Target) :
    Int.land (target.key >>> (8 : Nat)) 255 =
      Int.land (Int.lor target.major (target.minor.code >>> (8 : Nat))) 255 := by
  apply Bits.eq_of_bit_eq
  intro position
  rw [Bits.bit_land_byte, Bits.bit_land_byte]
  by_cases hbyte : position < 8
  · have hkind : 8 + position < 16 := by omega
    have hmajor : 8 ≤ 8 + position := Nat.le_add_right _ _
    rw [Bits.bit_shiftRight, bit_key, Bits.bit_shiftLeft_of_lt _ hkind,
      Bits.bit_shiftLeft_of_le _ hmajor, Nat.add_sub_cancel_left, Bool.false_or, Bits.bit_lor,
      Bits.bit_shiftRight]
  · simp [hbyte]

theorem key_low_byte (target : Target) :
    Int.land target.key 255 = Int.land target.minor.code 255 := by
  apply Bits.eq_of_bit_eq
  intro position
  rw [Bits.bit_land_byte, Bits.bit_land_byte]
  by_cases hbyte : position < 8
  · have hkind : position < 16 := by omega
    rw [bit_key, Bits.bit_shiftLeft_of_lt _ hkind, Bits.bit_shiftLeft_of_lt _ hbyte,
      Bool.false_or, Bool.false_or]
  · simp [hbyte]

theorem key_neg_iff (target : Target) :
    target.key < 0 ↔ target.major < 0 ∨ target.minor.code < 0 := by
  have hkind : ¬(target.kind.ordinal : Int) <<< (16 : Nat) < 0 := by
    rw [Int.shiftLeft_eq]
    omega
  have hmajor : target.major <<< (8 : Nat) < 0 ↔ target.major < 0 := by
    rw [Int.shiftLeft_eq]
    omega
  rw [key, Bits.union_neg_iff, Bits.union_neg_iff, hmajor]
  simp [hkind]

/-- Neither version number leaves the eight bits that the key has for it. -/
structure FitsBytes (target : Target) : Prop where
  major_nonneg : 0 ≤ target.major
  major_lt : target.major < 256
  code_nonneg : 0 ≤ target.minor.code
  code_lt : target.minor.code < 256

instance (target : Target) : Decidable target.FitsBytes :=
  decidable_of_iff (0 ≤ target.major ∧ target.major < 256 ∧ 0 ≤ target.minor.code ∧
      target.minor.code < 256)
    ⟨fun ⟨hmajor, hmajorLt, hcode, hcodeLt⟩ => ⟨hmajor, hmajorLt, hcode, hcodeLt⟩,
      fun ⟨hmajor, hmajorLt, hcode, hcodeLt⟩ => ⟨hmajor, hmajorLt, hcode, hcodeLt⟩⟩

/-- The documented order of targets: by stage, then major version, then minor version. -/
def Precedes (first second : Target) : Prop :=
  first.kind.ordinal < second.kind.ordinal ∨
    first.kind.ordinal = second.kind.ordinal ∧
      (first.major < second.major ∨
        first.major = second.major ∧ first.minor.code < second.minor.code)

/-- Bytes in places of their own do not overlap, and joining them is adding them. -/
theorem or_of_bytes {high middle low : Nat} (hmiddle : middle < 256) (hlow : low < 256) :
    high <<< 16 ||| middle <<< 8 ||| low = high * 65536 + middle * 256 + low := by
  have hplace : middle <<< 8 < 2 ^ 16 := by
    rw [Nat.shiftLeft_eq]
    omega
  have hhigh : high <<< 16 + middle <<< 8 = (high * 256 + middle) <<< 8 := by
    simp only [Nat.shiftLeft_eq]
    omega
  rw [← Nat.shiftLeft_add_eq_or_of_lt hplace, hhigh,
    ← Nat.shiftLeft_add_eq_or_of_lt (show low < 2 ^ 8 from hlow), Nat.shiftLeft_eq]
  omega

theorem key_eq_of_fitsBytes {target : Target} (hfits : target.FitsBytes) :
    target.key = target.kind.ordinal * 65536 + target.major * 256 + target.minor.code := by
  obtain ⟨major, hmajor⟩ := Int.eq_ofNat_of_zero_le hfits.major_nonneg
  obtain ⟨code, hcode⟩ := Int.eq_ofNat_of_zero_le hfits.code_nonneg
  have hmajorLt : major < 256 := by
    have := hfits.major_lt
    omega
  have hcodeLt : code < 256 := by
    have := hfits.code_lt
    omega
  have hkey : target.key = (target.kind.ordinal <<< 16 ||| major <<< 8 ||| code : Nat) := by
    rw [key, hmajor, hcode]
    rfl
  rw [hkey, or_of_bytes hmajorLt hcodeLt, hmajor, hcode]
  push_cast
  rfl

section Order

variable {first second : Target}

theorem key_lt_iff_precedes (hfirst : first.FitsBytes) (hsecond : second.FitsBytes) :
    first.key < second.key ↔ first.Precedes second := by
  rw [key_eq_of_fitsBytes hfirst, key_eq_of_fitsBytes hsecond]
  obtain ⟨_, _, _, _⟩ := hfirst
  obtain ⟨_, _, _, _⟩ := hsecond
  unfold Precedes
  omega

theorem key_eq_iff_parts (hfirst : first.FitsBytes) (hsecond : second.FitsBytes) :
    first.key = second.key ↔
      first.kind = second.kind ∧ first.major = second.major ∧
        first.minor.code = second.minor.code := by
  have hkinds : first.kind.ordinal = second.kind.ordinal ↔ first.kind = second.kind :=
    ⟨Kind.ordinal_injective, congrArg Kind.ordinal⟩
  rw [← hkinds, key_eq_of_fitsBytes hfirst, key_eq_of_fitsBytes hsecond]
  obtain ⟨_, _, _, _⟩ := hfirst
  obtain ⟨_, _, _, _⟩ := hsecond
  omega

end Order

end Target

/-- Equal codes leave only the offline minor and its own code to be confused. -/
theorem Minor.code_eq_iff {first second : Minor} :
    first.code = second.code ↔
      first = second ∨ first = .offline ∧ second = .numeric 15 ∨
        first = .numeric 15 ∧ second = .offline := by
  cases first with
  | numeric number =>
      cases second with
      | numeric other => simp [code]
      | offline => simp [code, offlineCode]
  | offline =>
      cases second with
      | numeric other => simp [code, offlineCode, eq_comm]
      | offline => simp

theorem Table.ascending_iff_precedes {entries : List Profile}
    (hfits : ∀ entry ∈ entries, entry.FitsBytes) :
    Ascending entries ↔
      entries.Pairwise fun earlier later => earlier.Precedes later.toTarget := by
  apply List.Pairwise.iff_of_mem
  intro earlier later hearlier hlater
  exact Target.key_lt_iff_precedes (hfits earlier hearlier) (hfits later hlater)

namespace Target

/-- The bits above the second byte are those of the stage joined with what spills out of
the version numbers, the second byte holds the major version and what spills out of the
minor, and the lowest byte is that of the minor. Among targets that fit, keys are ordered
like targets, and no two targets share a key but for the offline minor and the number 15.
So tables of such entries are checked for the documented order. -/
theorem key_packs_components (target : Target) :
    (target.key >>> (16 : Nat) =
        Int.lor (Int.lor target.kind.ordinal (target.major >>> (8 : Nat)))
          (target.minor.code >>> (16 : Nat)) ∧
      Int.land (target.key >>> (8 : Nat)) 255 =
        Int.land (Int.lor target.major (target.minor.code >>> (8 : Nat))) 255 ∧
      Int.land target.key 255 = Int.land target.minor.code 255 ∧
      (target.key < 0 ↔ target.major < 0 ∨ target.minor.code < 0)) ∧
    (∀ other : Target, target.FitsBytes → other.FitsBytes →
      (target.key < other.key ↔ target.Precedes other) ∧
      (other.key < target.key ↔ other.Precedes target) ∧
      (target.key = other.key ↔
        target = other ∨ target.kind = other.kind ∧ target.major = other.major ∧
          (target.minor = .offline ∧ other.minor = .numeric 15 ∨
            target.minor = .numeric 15 ∧ other.minor = .offline))) ∧
    ∀ table : Table, (∀ entry ∈ table.dropLast, entry.FitsBytes) →
      (table.fault? = none ↔
        table.getLast? = some .invalid ∧ (∀ entry ∈ table.dropLast, Table.Sound entry) ∧
          table.dropLast.Pairwise fun earlier later => earlier.Precedes later.toTarget) := by
  refine ⟨⟨key_shiftRight_sixteen target, key_middle_byte target, key_low_byte target,
    key_neg_iff target⟩, ?_, ?_⟩
  · intro other hfits hother
    refine ⟨key_lt_iff_precedes hfits hother, key_lt_iff_precedes hother hfits, ?_⟩
    rw [key_eq_iff_parts hfits hother, Minor.code_eq_iff]
    cases target
    cases other
    simp only [mk.injEq]
    tauto
  · intro table hfits
    simp only [Table.fault?_eq_none_iff, Table.sound_iff, Table.ascending_iff_precedes hfits]

/-- The offline library and its number 15 fit, differ, and share a key all the same. The
catalogue has only the former, and lists its targets in the documented order. -/
theorem key_of_offline_and_fifteen :
    (FitsBytes ⟨.library, 6, .offline⟩ ∧ FitsBytes ⟨.library, 6, .numeric 15⟩ ∧
      key ⟨.library, 6, .offline⟩ = key ⟨.library, 6, .numeric 15⟩) ∧
    (∀ entry ∈ Catalog.table.dropLast, entry.FitsBytes) ∧
      Catalog.table.dropLast.Pairwise fun earlier later => earlier.Precedes later.toTarget := by
  have hoffline : FitsBytes ⟨.library, 6, .offline⟩ := by decide
  have hfifteen : FitsBytes ⟨.library, 6, .numeric 15⟩ := by decide
  have hcatalog : ∀ entry ∈ Catalog.table.dropLast, entry.FitsBytes := by decide +kernel
  have hpacks := key_packs_components ⟨.library, 6, .offline⟩
  refine ⟨⟨hoffline, hfifteen, ?_⟩, hcatalog, ?_⟩
  · exact (hpacks.2.1 _ hoffline hfifteen).2.2.mpr (Or.inr ⟨rfl, rfl, Or.inl ⟨rfl, rfl⟩⟩)
  · exact ((hpacks.2.2 Catalog.table hcatalog).mp Catalog.fault?_table).2.2

end Target

end ShaderRegistry
