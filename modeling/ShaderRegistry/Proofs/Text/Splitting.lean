import ShaderRegistry.Proofs.Text.Decimal
import ShaderRegistry.Text.Line

/-! # Cutting texts

A text is cut into lines at every line feed and into words at every blank. Lines and words
that hold none of these characters come back out of a text that was put together from them,
however many spaces fill it up.
-/

namespace ShaderRegistry.Text

/-- Where a separator occurs in neither front, it marks the end of both. -/
theorem append_separator_inj {separator : Char} {first second rest tail : List Char}
    (hfirst : separator ∉ first) (hsecond : separator ∉ second)
    (hsame : first ++ separator :: rest = second ++ separator :: tail) :
    first = second ∧ rest = tail := by
  have hlength : first.length = second.length := by
    have hindex := congrArg (List.idxOf separator) hsame
    rw [List.idxOf_append_of_notMem hfirst, List.idxOf_append_of_notMem hsecond,
      List.idxOf_cons_self, List.idxOf_cons_self] at hindex
    exact hindex
  obtain ⟨hfront, hback⟩ := List.append_inj hsame hlength
  exact ⟨hfront, List.tail_eq_of_cons_eq hback⟩

/-- Where a separator occurs in neither rest, it marks the start of both. -/
theorem append_last_separator_inj {separator : Char} {first second rest tail : List Char}
    (hrest : separator ∉ rest) (htail : separator ∉ tail)
    (hsame : first ++ separator :: rest = second ++ separator :: tail) :
    first = second ∧ rest = tail := by
  have hreversed : rest.reverse ++ separator :: first.reverse =
      tail.reverse ++ separator :: second.reverse := by
    simpa using congrArg List.reverse hsame
  obtain ⟨hback, hfront⟩ := append_separator_inj
    (fun hmem => hrest (List.mem_reverse.mp hmem)) (fun hmem => htail (List.mem_reverse.mp hmem))
    hreversed
  exact ⟨List.reverse_inj.mp hfront, List.reverse_inj.mp hback⟩

/-- The parts of a text around its line feeds, of which the last one may be empty. -/
def lines (text : String) : List String :=
  (text.toList.splitOn '\n').map String.ofList

/-- The parts of a text around its blanks, without the empty ones. -/
def words (text : String) : List String :=
  ((text.toList.splitOnP isBlank).filter fun word => word ≠ []).map String.ofList

theorem lines_append_lineFeed (front back : String) :
    lines (front ++ "\n" ++ back) = lines front ++ lines back := by
  have hlist : (front ++ "\n" ++ back).toList = front.toList ++ '\n' :: back.toList := by
    simp
  rw [lines, hlist, List.splitOn_append_cons_self, List.map_append]
  rfl

theorem lines_eq_singleton {line : String} (hline : '\n' ∉ line.toList) :
    lines line = [line] := by
  simp [lines, List.splitOn_eq_singleton hline]

theorem lines_ofLines {rows : List String} (hrows : ∀ row ∈ rows, '\n' ∉ row.toList) :
    lines (ofLines rows) = rows ++ [""] := by
  induction rows with
  | nil => rfl
  | cons row rest ih =>
      obtain ⟨hrow, hrest⟩ := List.forall_mem_cons.mp hrows
      rw [ofLines_cons, lines_append_lineFeed, lines_eq_singleton hrow, ih hrest]
      rfl

/-- Joined by line feeds, the lines of a text are the text again. -/
theorem lines_injective {first second : String} (hsame : lines first = lines second) :
    first = second := by
  have hsplit : first.toList.splitOn '\n' = second.toList.splitOn '\n' :=
    List.map_injective_iff.mpr (fun _ _ => String.ofList_injective) hsame
  apply String.toList_inj.mp
  calc
    first.toList = ['\n'].intercalate (first.toList.splitOn '\n') :=
      (List.intercalate_splitOn '\n').symm
    _ = ['\n'].intercalate (second.toList.splitOn '\n') := by rw [hsplit]
    _ = second.toList := List.intercalate_splitOn '\n'

theorem words_append_space (front back : String) :
    words (front ++ " " ++ back) = words front ++ words back := by
  have hlist : (front ++ " " ++ back).toList = front.toList ++ ' ' :: back.toList := by
    simp
  rw [words, hlist, List.splitOnP_append_cons _ _ (by decide), List.filter_append,
    List.map_append]
  rfl

theorem words_append_twoSpaces (front back : String) :
    words (front ++ "  " ++ back) = words front ++ words back := by
  have hspaces : front ++ "  " ++ back = front ++ " " ++ "" ++ " " ++ back := by
    simp [← String.toList_inj]
  have hnone : words "" = [] := rfl
  rw [hspaces, words_append_space, words_append_space, hnone, List.append_nil]

/-- What fills a column up adds no words. -/
theorem words_append_spaces (text : String) (count : Nat) :
    words (text ++ String.ofList (List.replicate count ' ')) = words text := by
  induction count with
  | zero => simp
  | succ count ih =>
      have hspace : text ++ String.ofList (List.replicate (count + 1) ' ') =
          text ++ String.ofList (List.replicate count ' ') ++ " " ++ "" := by
        simp [← String.toList_inj, List.replicate_succ']
      rw [hspace, words_append_space, ih]
      exact List.append_nil _

@[simp] theorem words_padRight (width : Nat) (text : String) :
    words (padRight width text) = words text := by
  have hpadded : padRight width text =
      text ++ String.ofList (List.replicate (width - text.toList.length) ' ') := by
    simp [padRight, List.rightpad]
  rw [hpadded, words_append_spaces]

theorem words_spaces_append (count : Nat) (text : String) :
    words (String.ofList (List.replicate count ' ') ++ text) = words text := by
  induction count with
  | zero => simp
  | succ count ih =>
      have hspace : String.ofList (List.replicate (count + 1) ' ') ++ text =
          "" ++ " " ++ (String.ofList (List.replicate count ' ') ++ text) := by
        simp [← String.toList_inj, List.replicate_succ]
      rw [hspace, words_append_space, ih]
      rfl

@[simp] theorem words_padLeft (width : Nat) (text : String) :
    words (padLeft width text) = words text := by
  have hpadded : padLeft width text =
      String.ofList (List.replicate (width - text.toList.length) ' ') ++ text := by
    simp [padLeft, List.leftpad]
  rw [hpadded, words_spaces_append]

theorem lineFeed_notMem_padRight {text : String} (width : Nat) (htext : '\n' ∉ text.toList) :
    '\n' ∉ (padRight width text).toList := by
  rw [padRight, String.toList_ofList, List.rightpad, List.mem_append, not_or]
  refine ⟨htext, ?_⟩
  intro hfilled
  exact absurd (List.eq_of_mem_replicate hfilled) (by decide)

/-- A text that is one word. -/
structure IsWord (text : String) : Prop where
  ne_empty : text ≠ ""
  not_blank : ∀ char ∈ text.toList, isBlank char = false

instance (text : String) : Decidable (IsWord text) :=
  decidable_of_iff (text ≠ "" ∧ (text.toList.all fun char => !isBlank char) = true) <| by
    simp only [List.all_eq_true, Bool.not_eq_true']
    exact ⟨fun hword => ⟨hword.1, hword.2⟩, fun hword => ⟨hword.ne_empty, hword.not_blank⟩⟩

namespace IsWord

variable {first second word : String}

theorem words_eq (hword : IsWord word) : words word = [word] := by
  have hlist : word.toList ≠ [] := by
    simpa using hword.ne_empty
  simp [words, List.splitOnP_eq_singleton hword.not_blank, hlist]

theorem lineFeed_notMem (hword : IsWord word) : '\n' ∉ word.toList := by
  intro hmem
  exact absurd (hword.not_blank '\n' hmem) (by decide)

theorem append (hfirst : IsWord first) (hsecond : IsWord second) : IsWord (first ++ second) where
  ne_empty := by
    intro hempty
    exact hfirst.ne_empty (String.append_eq_empty_iff.mp hempty).1
  not_blank := by
    intro char hmem
    rw [String.toList_append] at hmem
    rcases List.mem_append.mp hmem with hchar | hchar
    · exact hfirst.not_blank char hchar
    · exact hsecond.not_blank char hchar

theorem lineFeed_notMem_append {title : String} (hword : IsWord word)
    (htitle : '\n' ∉ title.toList) : '\n' ∉ (title ++ word).toList := by
  rw [String.toList_append, List.mem_append, not_or]
  exact ⟨htitle, hword.lineFeed_notMem⟩

/-- There is nothing to clear behind a word. -/
theorem trimEnd_append (hword : IsWord word) (front : String) :
    trimEnd (front ++ word) = front ++ word := by
  have hlist : word.toList ≠ [] := by
    simpa using hword.ne_empty
  have hparts : (front ++ word).toList =
      (front.toList ++ word.toList.dropLast) ++ [word.toList.getLast hlist] := by
    rw [List.append_assoc, List.dropLast_concat_getLast, String.toList_append]
  exact trimEnd_eq_self hparts (hword.not_blank _ (List.getLast_mem hlist))

end IsWord

theorem isBlank_of_isDigit {char : Char} (hdigit : char.isDigit = true) :
    isBlank char = false := by
  have hcode : 0x30 ≤ char.toNat ∧ char.toNat ≤ 0x39 := Char.isDigit_iff_toNat.mp hdigit
  simp only [isBlank, Bool.or_eq_false_iff, Bool.and_eq_false_iff, decide_eq_false_iff_not]
  omega

theorem isWord_toString (number : Int) : IsWord (toString number) where
  ne_empty := by
    intro hempty
    rw [Int.toString_eq_repr, Int.repr_eq_if] at hempty
    split at hempty
    · exact Nat.repr_ne_empty hempty
    · exact Nat.repr_ne_empty (String.append_eq_empty_iff.mp hempty).2
  not_blank := by
    intro char hmem
    rcases eq_minus_or_isDigit_of_mem_toString hmem with rfl | hdigit
    · decide
    · exact isBlank_of_isDigit hdigit

end ShaderRegistry.Text
