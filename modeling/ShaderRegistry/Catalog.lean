import ShaderRegistry.Table.Index

/-! # The catalogue of profiles

Every profile that exists, ordered by stage, then major version, then minor version, and
the search of it by target.
-/

namespace ShaderRegistry.Catalog

private def row (kind : Kind) (major : Int) (minor : Minor) (name : String)
    (inputRegisters outputRegisters : Int) (typedUavs : Bool) (uavRegisters : RegisterCount) :
    Profile :=
  { kind, major, minor, name, inputRegisters, outputRegisters, typedUavs, uavRegisters }

/-- Stage, major and minor version, name, input and output registers, typed loads from
unordered access views, registers for such views. -/
def profiles : List Profile :=
  [
    row .pixel 4 (.numeric 0) "ps_4_0" 32 8 false (.limited 0),
    row .pixel 4 (.numeric 1) "ps_4_1" 32 8 false (.limited 0),
    row .pixel 5 (.numeric 0) "ps_5_0" 32 8 true (.limited 64),
    row .pixel 5 (.numeric 1) "ps_5_1" 32 8 true (.limited 64),
    row .pixel 6 (.numeric 0) "ps_6_0" 32 8 true .unlimited,
    row .pixel 6 (.numeric 1) "ps_6_1" 32 8 true .unlimited,
    row .pixel 6 (.numeric 2) "ps_6_2" 32 8 true .unlimited,
    row .pixel 6 (.numeric 3) "ps_6_3" 32 8 true .unlimited,
    row .pixel 6 (.numeric 4) "ps_6_4" 32 8 true .unlimited,
    row .pixel 6 (.numeric 5) "ps_6_5" 32 8 true .unlimited,
    row .pixel 6 (.numeric 6) "ps_6_6" 32 8 true .unlimited,
    row .pixel 6 (.numeric 7) "ps_6_7" 32 8 true .unlimited,
    row .pixel 6 (.numeric 8) "ps_6_8" 32 8 true .unlimited,
    row .vertex 4 (.numeric 0) "vs_4_0" 16 16 false (.limited 0),
    row .vertex 4 (.numeric 1) "vs_4_1" 32 32 false (.limited 0),
    row .vertex 5 (.numeric 0) "vs_5_0" 32 32 true (.limited 64),
    row .vertex 5 (.numeric 1) "vs_5_1" 32 32 true (.limited 64),
    row .vertex 6 (.numeric 0) "vs_6_0" 32 32 true .unlimited,
    row .vertex 6 (.numeric 1) "vs_6_1" 32 32 true .unlimited,
    row .vertex 6 (.numeric 2) "vs_6_2" 32 32 true .unlimited,
    row .vertex 6 (.numeric 3) "vs_6_3" 32 32 true .unlimited,
    row .vertex 6 (.numeric 4) "vs_6_4" 32 32 true .unlimited,
    row .vertex 6 (.numeric 5) "vs_6_5" 32 32 true .unlimited,
    row .vertex 6 (.numeric 6) "vs_6_6" 32 32 true .unlimited,
    row .vertex 6 (.numeric 7) "vs_6_7" 32 32 true .unlimited,
    row .vertex 6 (.numeric 8) "vs_6_8" 32 32 true .unlimited,
    row .geometry 4 (.numeric 0) "gs_4_0" 16 32 false (.limited 0),
    row .geometry 4 (.numeric 1) "gs_4_1" 32 32 false (.limited 0),
    row .geometry 5 (.numeric 0) "gs_5_0" 32 32 true (.limited 64),
    row .geometry 5 (.numeric 1) "gs_5_1" 32 32 true (.limited 64),
    row .geometry 6 (.numeric 0) "gs_6_0" 32 32 true .unlimited,
    row .geometry 6 (.numeric 1) "gs_6_1" 32 32 true .unlimited,
    row .geometry 6 (.numeric 2) "gs_6_2" 32 32 true .unlimited,
    row .geometry 6 (.numeric 3) "gs_6_3" 32 32 true .unlimited,
    row .geometry 6 (.numeric 4) "gs_6_4" 32 32 true .unlimited,
    row .geometry 6 (.numeric 5) "gs_6_5" 32 32 true .unlimited,
    row .geometry 6 (.numeric 6) "gs_6_6" 32 32 true .unlimited,
    row .geometry 6 (.numeric 7) "gs_6_7" 32 32 true .unlimited,
    row .geometry 6 (.numeric 8) "gs_6_8" 32 32 true .unlimited,
    row .hull 5 (.numeric 0) "hs_5_0" 32 32 true (.limited 64),
    row .hull 5 (.numeric 1) "hs_5_1" 32 32 true (.limited 64),
    row .hull 6 (.numeric 0) "hs_6_0" 32 32 true .unlimited,
    row .hull 6 (.numeric 1) "hs_6_1" 32 32 true .unlimited,
    row .hull 6 (.numeric 2) "hs_6_2" 32 32 true .unlimited,
    row .hull 6 (.numeric 3) "hs_6_3" 32 32 true .unlimited,
    row .hull 6 (.numeric 4) "hs_6_4" 32 32 true .unlimited,
    row .hull 6 (.numeric 5) "hs_6_5" 32 32 true .unlimited,
    row .hull 6 (.numeric 6) "hs_6_6" 32 32 true .unlimited,
    row .hull 6 (.numeric 7) "hs_6_7" 32 32 true .unlimited,
    row .hull 6 (.numeric 8) "hs_6_8" 32 32 true .unlimited,
    row .domain 5 (.numeric 0) "ds_5_0" 32 32 true (.limited 64),
    row .domain 5 (.numeric 1) "ds_5_1" 32 32 true (.limited 64),
    row .domain 6 (.numeric 0) "ds_6_0" 32 32 true .unlimited,
    row .domain 6 (.numeric 1) "ds_6_1" 32 32 true .unlimited,
    row .domain 6 (.numeric 2) "ds_6_2" 32 32 true .unlimited,
    row .domain 6 (.numeric 3) "ds_6_3" 32 32 true .unlimited,
    row .domain 6 (.numeric 4) "ds_6_4" 32 32 true .unlimited,
    row .domain 6 (.numeric 5) "ds_6_5" 32 32 true .unlimited,
    row .domain 6 (.numeric 6) "ds_6_6" 32 32 true .unlimited,
    row .domain 6 (.numeric 7) "ds_6_7" 32 32 true .unlimited,
    row .domain 6 (.numeric 8) "ds_6_8" 32 32 true .unlimited,
    row .compute 4 (.numeric 0) "cs_4_0" 0 0 false (.limited 0),
    row .compute 4 (.numeric 1) "cs_4_1" 0 0 false (.limited 0),
    row .compute 5 (.numeric 0) "cs_5_0" 0 0 true (.limited 64),
    row .compute 5 (.numeric 1) "cs_5_1" 0 0 true (.limited 64),
    row .compute 6 (.numeric 0) "cs_6_0" 0 0 true .unlimited,
    row .compute 6 (.numeric 1) "cs_6_1" 0 0 true .unlimited,
    row .compute 6 (.numeric 2) "cs_6_2" 0 0 true .unlimited,
    row .compute 6 (.numeric 3) "cs_6_3" 0 0 true .unlimited,
    row .compute 6 (.numeric 4) "cs_6_4" 0 0 true .unlimited,
    row .compute 6 (.numeric 5) "cs_6_5" 0 0 true .unlimited,
    row .compute 6 (.numeric 6) "cs_6_6" 0 0 true .unlimited,
    row .compute 6 (.numeric 7) "cs_6_7" 0 0 true .unlimited,
    row .compute 6 (.numeric 8) "cs_6_8" 0 0 true .unlimited,
    row .library 6 (.numeric 1) "lib_6_1" 32 32 true .unlimited,
    row .library 6 (.numeric 2) "lib_6_2" 32 32 true .unlimited,
    row .library 6 (.numeric 3) "lib_6_3" 32 32 true .unlimited,
    row .library 6 (.numeric 4) "lib_6_4" 32 32 true .unlimited,
    row .library 6 (.numeric 5) "lib_6_5" 32 32 true .unlimited,
    row .library 6 (.numeric 6) "lib_6_6" 32 32 true .unlimited,
    row .library 6 (.numeric 7) "lib_6_7" 32 32 true .unlimited,
    row .library 6 (.numeric 8) "lib_6_8" 32 32 true .unlimited,
    row .library 6 .offline "lib_6_x" 32 32 true .unlimited,
    row .mesh 6 (.numeric 5) "ms_6_5" 0 0 true .unlimited,
    row .mesh 6 (.numeric 6) "ms_6_6" 0 0 true .unlimited,
    row .mesh 6 (.numeric 7) "ms_6_7" 0 0 true .unlimited,
    row .mesh 6 (.numeric 8) "ms_6_8" 0 0 true .unlimited,
    row .amplification 6 (.numeric 5) "as_6_5" 0 0 true .unlimited,
    row .amplification 6 (.numeric 6) "as_6_6" 0 0 true .unlimited,
    row .amplification 6 (.numeric 7) "as_6_7" 0 0 true .unlimited,
    row .amplification 6 (.numeric 8) "as_6_8" 0 0 true .unlimited
  ]

/-- The profiles as a table, closed by the invalid profile. -/
def table : Table :=
  profiles ++ [.invalid]

def profilesOf (kind : Kind) : List Profile :=
  profiles.filter fun profile => profile.kind = kind

def index : Table.Index :=
  .ofTable table

/-- The profile with this target, the invalid profile when there is none. -/
def resolve (target : Target) : Profile :=
  index.resolve target

theorem fault?_table : table.fault? = none := by
  decide +kernel

end ShaderRegistry.Catalog
