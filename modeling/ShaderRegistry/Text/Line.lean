import ShaderRegistry.Text.Blank

/-! # Lines and columns

Filling a column up to a width, clearing the end of a line, and joining lines into a
text. Widths count characters, and a text wider than its column is never cut.
-/

namespace ShaderRegistry.Text

/-- Fills up with spaces behind the text. -/
def padRight (width : Nat) (text : String) : String :=
  String.ofList (text.toList.rightpad width ' ')

/-- Fills up with spaces before the text. -/
def padLeft (width : Nat) (text : String) : String :=
  String.ofList (text.toList.leftpad width ' ')

/-- The text without the blanks at its end. -/
def trimEnd (text : String) : String :=
  String.ofList (text.toList.reverse.dropWhile isBlank).reverse

/-- The text of these lines, each closed by a line feed. -/
def ofLines : List String → String
  | [] => ""
  | line :: rest => line ++ "\n" ++ ofLines rest

@[simp] theorem length_padRight (width : Nat) (text : String) :
    (padRight width text).length = max width text.length := by
  rw [padRight, String.length_ofList, List.length_rightpad, String.length_toList]

@[simp] theorem length_padLeft (width : Nat) (text : String) :
    (padLeft width text).length = max width text.length := by
  rw [padLeft, String.length_ofList, List.length_leftpad, String.length_toList]

/-- Nothing is cleared behind a character that is not blank. -/
theorem trimEnd_eq_self {text : String} {front : List Char} {final : Char}
    (htext : text.toList = front ++ [final]) (hfinal : isBlank final = false) :
    trimEnd text = text := by
  simp [trimEnd, htext, hfinal, ← String.toList_inj]

@[simp] theorem ofLines_nil : ofLines [] = "" := rfl

@[simp] theorem ofLines_cons (line : String) (rest : List String) :
    ofLines (line :: rest) = line ++ "\n" ++ ofLines rest := rfl

end ShaderRegistry.Text
