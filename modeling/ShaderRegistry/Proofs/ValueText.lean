import ShaderRegistry.Report
import ShaderRegistry.Proofs.Text.Splitting

/-! # The texts of register counts and versions

A count or a version is written as a single word, from which it is read again. A version has a
point in its text, so that the words for a missing or a needless version belong to no version.
-/

namespace ShaderRegistry

namespace RegisterCount

def ofText? (text : String) : Option RegisterCount :=
  if text = "unlimited" then some .unlimited else text.toInt?.map .limited

theorem ofText?_text (count : RegisterCount) : ofText? count.text = some count := by
  cases count with
  | limited slots =>
      have hnumber : toString slots ≠ "unlimited" := by
        intro htext
        apply Text.notMem_toString (by decide : 'u' ≠ '-') rfl slots
        rw [htext]
        decide
      rw [text, ofText?, if_neg hnumber, Text.toInt?_toString]
      rfl
  | unlimited => rfl

theorem text_injective {first second : RegisterCount} (hsame : first.text = second.text) :
    first = second := by
  apply Option.some.inj
  rw [← ofText?_text first, hsame, ofText?_text]

theorem isWord_text (count : RegisterCount) : Text.IsWord count.text := by
  cases count with
  | limited slots => exact Text.isWord_toString slots
  | unlimited => decide

end RegisterCount

namespace Version

def ofText? (text : String) : Option Version :=
  match text.toList.splitOn '.' with
  | [major, minor] => do
    let major ← (String.ofList major).toInt?
    let minor ← (String.ofList minor).toInt?
    return ⟨major, minor⟩
  | _ => none

theorem toList_text (version : Version) :
    version.text.toList =
      (toString version.major).toList ++ '.' :: (toString version.minor).toList := by
  simp [text]

theorem ofText?_text (version : Version) : ofText? version.text = some version := by
  have hpoint := Text.notMem_toString (by decide : '.' ≠ '-') rfl
  rw [ofText?, toList_text, List.splitOn_append_cons_self_of_not_mem (hpoint version.major),
    List.splitOn_eq_singleton (hpoint version.minor)]
  simp only [String.ofList_toList, Text.toInt?_toString]
  rfl

theorem text_ne_of_notMem {word : String} (hword : '.' ∉ word.toList) (version : Version) :
    version.text ≠ word := by
  rintro rfl
  apply hword
  rw [toList_text]
  exact List.mem_append_right _ List.mem_cons_self

theorem isWord_text (version : Version) : Text.IsWord version.text :=
  ((Text.isWord_toString _).append (by decide)).append (Text.isWord_toString _)

end Version

namespace Report

def dxilOfText? (text : String) : Option (Option Version) :=
  if text = "-" then some none else (Version.ofText? text).map some

def validatorOfText? (text : String) : Option (Option Version) :=
  if text = "-" then some none
  else if text = "none" then some (some ⟨0, 0⟩)
  else (Version.ofText? text).map some

theorem dxilOfText?_dxilText (version : Option Version) :
    dxilOfText? (dxilText version) = some version := by
  cases version with
  | none => rfl
  | some version =>
      have hdash : version.text ≠ "-" := version.text_ne_of_notMem (by decide)
      rw [dxilText, dxilOfText?, if_neg hdash, Version.ofText?_text]
      rfl

theorem validatorOfText?_validatorText (version : Option Version) :
    validatorOfText? (validatorText version) = some version := by
  cases version with
  | none => rfl
  | some version =>
      by_cases hzero : version = ⟨0, 0⟩
      · subst hzero
        rfl
      · have hdash : version.text ≠ "-" := version.text_ne_of_notMem (by decide)
        have hnone : version.text ≠ "none" := version.text_ne_of_notMem (by decide)
        rw [validatorText, if_neg hzero, validatorOfText?, if_neg hdash, if_neg hnone,
          Version.ofText?_text]
        rfl

theorem yesNo_injective {first second : Bool} (hsame : yesNo first = yesNo second) :
    first = second := by
  cases first <;> cases second <;> first | rfl | exact absurd hsame (by decide)

theorem isWord_yesNo (answer : Bool) : Text.IsWord (yesNo answer) := by
  cases answer <;> decide

theorem isWord_dxilText (version : Option Version) : Text.IsWord (dxilText version) := by
  cases version with
  | none => decide
  | some version => exact version.isWord_text

theorem isWord_validatorText (version : Option Version) :
    Text.IsWord (validatorText version) := by
  cases version with
  | none => decide
  | some version =>
      change Text.IsWord (if version = ⟨0, 0⟩ then "none" else version.text)
      split
      · decide
      · exact version.isWord_text

end Report

end ShaderRegistry
