import Mathlib.Data.List.Nodup
import ShaderRegistry.Proofs.CanonicalName
import ShaderRegistry.Proofs.Table.Search

/-! # What tells entries apart

Every entry of an accepted table bears the canonical name of its target. Such a name belongs
to one target alone, so that the entries differ in their names as they do in their targets,
also where numbers out of range run into each other in the keys.
-/

namespace ShaderRegistry.Table

namespace WellFormed

variable {table : Table}

theorem names_eq (htable : table.WellFormed) :
    (table.dropLast.map fun entry => entry.name) =
      (table.dropLast.map fun entry => entry.toTarget).map Target.canonicalName := by
  rw [List.map_map]
  apply List.map_congr_left
  intro entry hentry
  exact (htable.sound entry hentry).name_eq

theorem nodup_names (htable : table.WellFormed) :
    (table.dropLast.map fun entry => entry.name).Nodup := by
  have hinjective : Function.Injective Target.canonicalName :=
    fun _ _ => Target.canonicalName_injective
  rw [htable.names_eq]
  exact htable.ascending.nodup_targets.map hinjective

end WellFormed

/-- A canonical name stands for one target, whatever the numbers are. So no two entries of an
accepted table have a name in common, and none have a target in common. -/
theorem canonicalName_identifies_entries :
    Function.Injective Target.canonicalName ∧
      ∀ table : Table, table.fault? = none →
        (table.dropLast.map fun entry => entry.name).Nodup ∧
          (table.dropLast.map fun entry => entry.toTarget).Nodup := by
  refine ⟨fun _ _ => Target.canonicalName_injective, ?_⟩
  intro table haccepted
  have htable := wellFormed_iff.mpr haccepted
  exact ⟨htable.nodup_names, htable.ascending.nodup_targets⟩

/-- Two targets with one key have names of their own, and a table with one of them tells all
of its entries apart. -/
theorem names_of_overlappingTable :
    (Target.key ⟨.pixel, 4, .numeric 256⟩ = Target.key ⟨.pixel, 5, .numeric 0⟩ ∧
      Target.canonicalName ⟨.pixel, 4, .numeric 256⟩ ≠
        Target.canonicalName ⟨.pixel, 5, .numeric 0⟩) ∧
    Index.overlappingTable.fault? = none ∧ ["ps_-1_0", "ps_4_256", "lib_6_x"].Nodup := by
  have haccepted : Index.overlappingTable.fault? = none := by decide +kernel
  refine ⟨⟨by decide +kernel, ?_⟩, haccepted, ?_⟩
  · exact canonicalName_identifies_entries.1.ne (by decide)
  · exact (canonicalName_identifies_entries.2 _ haccepted).1

end ShaderRegistry.Table
