import ShaderRegistry.Report
import ShaderRegistry.Proofs.Catalog.Resolution
import ShaderRegistry.Proofs.Table.Ordering
import ShaderRegistry.Proofs.Text.Splitting

/-! # Listings by kind

The profiles of a kind are listed all together and in the order of the catalogue, which
leaves one list for each kind. The table of kinds tells how long these lists are.
-/

namespace ShaderRegistry

namespace Catalog

/-- All profiles of the kind and no others, in the order of the catalogue. -/
structure IsListOf (kind : Kind) (listed : List Profile) : Prop where
  sublist : listed.Sublist profiles
  mem_iff : ∀ profile, profile ∈ listed ↔ profile ∈ profiles ∧ profile.kind = kind

theorem isListOf_profilesOf (kind : Kind) : IsListOf kind (profilesOf kind) where
  sublist := List.filter_sublist
  mem_iff := by
    intro profile
    simp [profilesOf]

namespace IsListOf

variable {kind : Kind} {first second listed : List Profile}

theorem ascending (hlisted : IsListOf kind listed) : Table.Ascending listed :=
  List.Pairwise.sublist hlisted.sublist ascending_profiles

/-- The keys order the profiles of a kind, so that their members leave no choice. -/
theorem unique (hfirst : IsListOf kind first) (hsecond : IsListOf kind second) :
    first = second := by
  apply hfirst.ascending.eq_of_perm hsecond.ascending
  apply (List.perm_ext_iff_of_nodup hfirst.ascending.nodup_keys.of_map
    hsecond.ascending.nodup_keys.of_map).mpr
  intro profile
  rw [hfirst.mem_iff, hsecond.mem_iff]

theorem eq_profilesOf (hlisted : IsListOf kind listed) : listed = profilesOf kind :=
  hlisted.unique (isListOf_profilesOf kind)

end IsListOf

end Catalog

theorem Kind.isWord_shortName (kind : Kind) : Text.IsWord kind.shortName := by
  cases kind <;> decide

theorem Kind.isWord_fullNameOrDash (kind : Kind) : Text.IsWord (kind.fullName?.getD "-") := by
  cases kind <;> decide

namespace Report

/-- The row on a kind tells its ordinal, its names, and how many profiles a list of the kind
has. -/
theorem words_kindRow {kind : Kind} {listed : List Profile}
    (hlisted : Catalog.IsListOf kind listed) :
    Text.words (kindRow kind) =
      [toString kind.ordinal, kind.shortName, kind.fullName?.getD "-", toString listed.length,
        "profiles"] := by
  have hparts : kindRow kind =
      "" ++ "  " ++ Text.padLeft 2 (toString kind.ordinal) ++
        "  " ++ Text.padRight 14 kind.shortName ++
        " " ++ Text.padRight 14 (kind.fullName?.getD "-") ++
        " " ++ toString listed.length ++ " " ++ "profiles" := by
    simp [kindRow, hlisted.eq_profilesOf, ← String.toList_inj]
  have hordinal : Text.IsWord (toString kind.ordinal) := Text.isWord_toString kind.ordinal
  have hcount : Text.IsWord (toString listed.length) := Text.isWord_toString listed.length
  have hprofiles : Text.IsWord "profiles" := by decide
  have hnone : Text.words "" = [] := rfl
  simp only [hparts, Text.words_append_space, Text.words_append_twoSpaces, Text.words_padLeft,
    Text.words_padRight, hnone, hordinal.words_eq, kind.isWord_shortName.words_eq,
    kind.isWord_fullNameOrDash.words_eq, hcount.words_eq, hprofiles.words_eq]
  rfl

/-- The lines of the table of kinds. -/
def kindTableLines : List String :=
  ["Shader kinds:",
    "",
    "   0  ps             pixel          13 profiles",
    "   1  vs             vertex         13 profiles",
    "   2  gs             geometry       13 profiles",
    "   3  hs             hull           11 profiles",
    "   4  ds             domain         11 profiles",
    "   5  cs             compute        13 profiles",
    "   6  lib            -              9 profiles",
    "   7  raygeneration  raygeneration  0 profiles",
    "   8  intersection   intersection   0 profiles",
    "   9  anyhit         anyhit         0 profiles",
    "  10  closesthit     closesthit     0 profiles",
    "  11  miss           miss           0 profiles",
    "  12  callable       callable       0 profiles",
    "  13  ms             mesh           4 profiles",
    "  14  as             amplification  4 profiles",
    "  15  node           node           0 profiles",
    "  16  invalid        -              0 profiles"]

theorem kindTable_eq_lines : kindTable = Text.ofLines kindTableLines := by
  have hlines : ["Shader kinds:", ""] ++ Kind.all.map kindRow = kindTableLines := by
    decide +kernel
  rw [kindTable, hlines]

end Report

end ShaderRegistry
