import Mathlib.Tactic.Lemma
import SetupRecipe.Shell.Heredoc

/-!
# Contents in here-documents

A here-document carries every content that has no line equal to the closing tag, and no other. Its
payload lines, each ended by a newline, are the content with its last line ended.
-/

namespace SetupRecipe.Text

lemma splitLines_cons_of_ne {c : Char} (hc : c ≠ '\n') (text : List Char) :
    splitLines (c :: text) = (splitLines text).modifyHead (c :: ·) := by
  rw [splitLines, if_neg hc]
  cases h : splitLines text with
  | nil => exact absurd h (splitLines_ne_nil text)
  | cons line lines => rfl

/-- A newline separates the lines before it from those after it. -/
lemma splitLines_append_newline (text rest : List Char) :
    splitLines (text ++ '\n' :: rest) = splitLines text ++ splitLines rest := by
  induction text with
  | nil => simp [splitLines]
  | cons c text ih =>
    rw [List.cons_append]
    by_cases hc : c = '\n'
    · simp [splitLines, hc, ih]
    · rw [splitLines_cons_of_ne hc, splitLines_cons_of_ne hc, ih]
      cases h : splitLines text with
      | nil => exact absurd h (splitLines_ne_nil text)
      | cons line lines => rfl

lemma splitLines_of_not_mem {line : List Char} (h : '\n' ∉ line) : splitLines line = [line] := by
  induction line with
  | nil => rfl
  | cons c line ih =>
    rw [List.mem_cons, not_or] at h
    rw [splitLines_cons_of_ne (Ne.symm h.1), ih h.2]
    rfl

lemma newline_not_mem_of_mem_splitLines {text line : List Char} (h : line ∈ splitLines text) :
    '\n' ∉ line := by
  induction text generalizing line with
  | nil => simp_all [splitLines]
  | cons c text ih =>
    by_cases hc : c = '\n'
    · rw [splitLines, if_pos hc, List.mem_cons] at h
      rcases h with rfl | h
      · exact List.not_mem_nil
      · exact ih h
    · rw [splitLines_cons_of_ne hc] at h
      cases hs : splitLines text with
      | nil => exact absurd hs (splitLines_ne_nil text)
      | cons first lines =>
        rw [hs, List.modifyHead_cons, List.mem_cons] at h
        rw [hs] at ih
        rcases h with rfl | h
        · simp [Ne.symm hc, ih List.mem_cons_self]
        · exact ih (List.mem_cons_of_mem first h)

/-- Lines with a newline after each of them. -/
def endLines (lines : List (List Char)) : List Char := lines.flatMap (· ++ ['\n'])

lemma endLines_append (lines more : List (List Char)) :
    endLines (lines ++ more) = endLines lines ++ endLines more := List.flatMap_append

lemma endLines_splitLines (text : List Char) : endLines (splitLines text) = text ++ ['\n'] := by
  induction text with
  | nil => rfl
  | cons c text ih =>
    by_cases hc : c = '\n'
    · simp_all [splitLines, endLines]
    · rw [splitLines_cons_of_ne hc]
      cases h : splitLines text with
      | nil => exact absurd h (splitLines_ne_nil text)
      | cons line lines => simp_all [endLines]

/-- The newline that ends a text starts a last line with nothing in it. -/
lemma splitLines_of_final_newline {text : List Char} (h : text.getLast? = some '\n') :
    splitLines text = splitLines text.dropLast ++ [[]] := by
  obtain ⟨init, rfl⟩ := List.getLast?_eq_some_iff.mp h
  rw [splitLines_append_newline, List.dropLast_concat]
  rfl

end SetupRecipe.Text

namespace SetupRecipe

/-- A content with a line that closes the here-document around it. -/
def HasTagLine (content : String) : Prop :=
  Shell.heredocTag.toList ∈ Text.splitLines content.toList

instance (content : String) : Decidable (HasTagLine content) :=
  decidable_of_iff ((Text.splitLines content.toList).contains Shell.heredocTag.toList)
    List.contains_iff_mem

namespace Shell.Heredoc

/-- The lines between the operator and the closing tag. -/
def lines (doc : Heredoc) : List (List Char) :=
  match doc.payload with
  | some payload => Text.splitLines payload.toList
  | none => []

/-- What a shell writes for a content: the content with its last line ended. -/
def written (content : String) : String :=
  if content = "" ∨ content.toList.getLast? = some '\n' then content else content ++ "\n"

lemma splitLines_body (doc : Heredoc) :
    Text.splitLines doc.body.toList = doc.lines ++ [heredocTag.toList] := by
  obtain ⟨_ | payload⟩ := doc
  · rfl
  · have htag : Text.splitLines heredocTag.toList = [heredocTag.toList] := by decide
    simp only [body, lines, String.toList_append, List.append_assoc]
    rw [show "\n".toList ++ heredocTag.toList = '\n' :: heredocTag.toList from rfl,
      Text.splitLines_append_newline, htag]

lemma newline_not_mem_of_mem_lines {doc : Heredoc} {line : List Char} (h : line ∈ doc.lines) :
    '\n' ∉ line := by
  obtain ⟨_ | payload⟩ := doc
  · exact absurd h List.not_mem_nil
  · exact Text.newline_not_mem_of_mem_splitLines h

lemma tag_mem_dropFinalNewline (text : List Char) :
    heredocTag.toList ∈ Text.splitLines (Text.dropFinalNewline text) ↔
      heredocTag.toList ∈ Text.splitLines text := by
  unfold Text.dropFinalNewline
  by_cases h : text.getLast? = some '\n'
  · have htag : heredocTag.toList ≠ [] := by decide
    simp [h, Text.splitLines_of_final_newline h, htag]
  · simp [h]

theorem ofContent?_eq_none_iff (content : String) :
    ofContent? content = none ↔ HasTagLine content := by
  unfold ofContent? HasTagLine
  by_cases hempty : content = ""
  · subst hempty
    decide
  · simp [hempty, tag_mem_dropFinalNewline]

/-- A content that a here-document carries is what the shell writes, and no line of it is the tag. -/
theorem lines_of_ofContent? {content : String} {doc : Heredoc} (h : ofContent? content = some doc) :
    heredocTag.toList ∉ doc.lines ∧ Text.endLines doc.lines = (written content).toList := by
  have hclean : ¬ HasTagLine content := by
    rw [← ofContent?_eq_none_iff, h]
    simp
  unfold ofContent? at h
  by_cases hempty : content = ""
  · subst hempty
    obtain rfl : ⟨none⟩ = doc := by simpa using h
    exact ⟨by simp [lines], by decide⟩
  · unfold HasTagLine at hclean
    simp only [hempty, if_false, tag_mem_dropFinalNewline, if_neg hclean] at h
    obtain rfl := Option.some.inj h
    simp only [lines, String.toList_ofList, tag_mem_dropFinalNewline, Text.endLines_splitLines]
    refine ⟨hclean, ?_⟩
    unfold Text.dropFinalNewline written
    by_cases hlast : content.toList.getLast? = some '\n'
    · obtain ⟨init, hinit⟩ := List.getLast?_eq_some_iff.mp hlast
      simp [hinit]
    · simp [hempty, hlast]

end Shell.Heredoc

end SetupRecipe
