import Mathlib.Data.List.DropRight
import SetupRecipe.Proofs.FragmentActions

/-!
# Lines of code

Code is cut into lines without its trailing newlines. Nothing but line ends is lost by that, code has
no lines only if it is a run of newlines, and its last line ends in a character that is no newline.
-/

namespace SetupRecipe

namespace Text

/-! ## Trailing newlines -/

lemma trimNewlines_eq_rdropWhile (text : List Char) :
    trimNewlines text = text.rdropWhile (· == '\n') := rfl

lemma trimNewlines_eq_nil_iff {text : List Char} : trimNewlines text = [] ↔ ∀ c ∈ text, c = '\n' := by
  simp [trimNewlines_eq_rdropWhile]

lemma trimNewlines_of_getLast {text : List Char} (h : text.getLast? ≠ some '\n') :
    trimNewlines text = text := by
  rw [trimNewlines_eq_rdropWhile, List.rdropWhile_eq_self_iff]
  intro hne hlast
  exact h (by rw [List.getLast?_eq_some_getLast hne, eq_of_beq hlast])

lemma getLast?_trimNewlines (text : List Char) : (trimNewlines text).getLast? ≠ some '\n' := by
  rw [trimNewlines_eq_rdropWhile]
  by_cases hne : text.rdropWhile (· == '\n') = []
  · simp [hne]
  · have hlast := List.rdropWhile_last_not (· == '\n') text hne
    rw [List.getLast?_eq_some_getLast hne]
    simpa using hlast

/-- What is trimmed is a run of newlines. -/
lemma exists_trimNewlines_append (text : List Char) :
    ∃ ends, text = trimNewlines text ++ ends ∧ ∀ c ∈ ends, c = '\n' := by
  refine ⟨text.rtakeWhile (· == '\n'), ?_, ?_⟩
  · rw [trimNewlines_eq_rdropWhile, List.rdropWhile_append_rtakeWhile]
  · intro c hc
    simpa using List.mem_rtakeWhile_imp hc

/-! ## Lines -/

lemma mem_splitLines_iff {c : Char} (hc : c ≠ '\n') {text : List Char} :
    (∃ line ∈ splitLines text, c ∈ line) ↔ c ∈ text := by
  induction text with
  | nil => simp [splitLines]
  | cons first text ih =>
    by_cases hfirst : first = '\n'
    · simp [splitLines, hfirst, hc, ih]
    · rw [splitLines_cons_of_ne hfirst, List.mem_cons, ← ih]
      cases hs : splitLines text with
      | nil => exact absurd hs (splitLines_ne_nil text)
      | cons line lines => simp [or_assoc]

lemma getLast?_splitLines_concat {c : Char} (hc : c ≠ '\n') (text : List Char) :
    ∃ line, (splitLines (text ++ [c])).getLast? = some (line ++ [c]) := by
  induction text with
  | nil => exact ⟨[], by simp [splitLines, hc]⟩
  | cons first text ih =>
    obtain ⟨line, hline⟩ := ih
    rw [List.cons_append]
    by_cases hfirst : first = '\n'
    · refine ⟨line, ?_⟩
      rw [splitLines, if_pos hfirst, List.getLast?_cons, hline, Option.getD_some]
    · rw [splitLines_cons_of_ne hfirst]
      cases hs : splitLines (text ++ [c]) with
      | nil => exact absurd hs (splitLines_ne_nil _)
      | cons start lines =>
        rw [hs] at hline
        cases lines with
        | nil =>
          rw [List.getLast?_singleton] at hline
          exact ⟨first :: line, by simp [Option.some.inj hline]⟩
        | cons next lines =>
          refine ⟨line, ?_⟩
          rw [List.modifyHead_cons, List.getLast?_cons_cons]
          rwa [List.getLast?_cons_cons] at hline

lemma dropFinalReturn_prefix (line : List Char) : dropFinalReturn line <+: line := by
  unfold dropFinalReturn
  split
  · exact List.dropLast_prefix line
  · exact List.prefix_rfl

lemma mem_dropFinalReturn_iff {c : Char} (hc : c ≠ '\r') {line : List Char} :
    c ∈ dropFinalReturn line ↔ c ∈ line := by
  unfold dropFinalReturn
  by_cases hlast : line.getLast? = some '\r'
  · obtain ⟨init, rfl⟩ := List.getLast?_eq_some_iff.mp hlast
    simp [hc]
  · rw [if_neg hlast]

lemma dropReturns_cons_cons (line next : List Char) (lines : List (List Char)) :
    dropReturns (line :: next :: lines) = dropFinalReturn line :: dropReturns (next :: lines) := by
  rw [dropReturns]
  exact List.cons_ne_nil next lines

lemma mem_dropReturns_iff {c : Char} (hc : c ≠ '\r') {lines : List (List Char)} :
    (∃ line ∈ dropReturns lines, c ∈ line) ↔ ∃ line ∈ lines, c ∈ line := by
  induction lines with
  | nil => rfl
  | cons line lines ih =>
    cases lines with
    | nil => rfl
    | cons next lines =>
      rw [dropReturns_cons_cons, List.exists_mem_cons_iff, List.exists_mem_cons_iff, ih,
        mem_dropFinalReturn_iff hc]

lemma getLast?_dropReturns (lines : List (List Char)) :
    (dropReturns lines).getLast? = lines.getLast? := by
  induction lines with
  | nil => rfl
  | cons line lines ih =>
    cases lines with
    | nil => rfl
    | cons next lines =>
      rw [dropReturns_cons_cons, List.getLast?_cons, ih, List.getLast?_cons_cons, List.getLast?_cons]
      rfl

/-! ## Code -/

/-- Code that is only newlines has no lines. All other code is cut at its newlines, up to the last
character that is none. -/
lemma codeLines_cases (text : List Char) :
    trimNewlines text = [] ∧ codeLines text = [] ∨
      ∃ init last, trimNewlines text = init ++ [last] ∧ last ≠ '\n' ∧
        codeLines text = dropReturns (splitLines (init ++ [last])) := by
  unfold codeLines
  rcases List.eq_nil_or_concat' (trimNewlines text) with hempty | ⟨init, last, hconcat⟩
  · exact .inl ⟨hempty, by rw [hempty]⟩
  · have hlast : last ≠ '\n' := by
      have h := getLast?_trimNewlines text
      simpa [hconcat] using h
    refine .inr ⟨init, last, hconcat, hlast, ?_⟩
    rw [hconcat]
    cases h : init ++ [last] with
    | nil => simp at h
    | cons first rest => rfl

lemma codeLines_concat {c : Char} (hc : c ≠ '\n') (text : List Char) :
    codeLines (text ++ [c]) = dropReturns (splitLines (text ++ [c])) := by
  have htrim : trimNewlines (text ++ [c]) = text ++ [c] :=
    trimNewlines_of_getLast (by simpa using hc)
  rcases codeLines_cases (text ++ [c]) with ⟨hempty, -⟩ | ⟨init, last, hconcat, -, hlines⟩
  · rw [htrim] at hempty
    simp at hempty
  · rw [htrim] at hconcat
    rw [hlines, hconcat]

/-- The first line of code ends at its first newline, and loses a return there. -/
lemma exists_codeLines_cons {first : List Char} (hfirst : '\n' ∉ first) {c : Char} (hc : c ≠ '\n')
    (rest : List Char) :
    ∃ more, codeLines (first ++ '\n' :: (rest ++ [c])) = dropFinalReturn first :: more := by
  have hconcat : first ++ '\n' :: (rest ++ [c]) = (first ++ '\n' :: rest) ++ [c] := by simp
  rw [hconcat, codeLines_concat hc, ← hconcat, splitLines_append_newline, splitLines_of_not_mem hfirst,
    List.singleton_append]
  cases hnext : splitLines (rest ++ [c]) with
  | nil => exact absurd hnext (splitLines_ne_nil _)
  | cons next lines => exact ⟨_, dropReturns_cons_cons first next lines⟩

lemma codeLines_eq_nil_iff {text : List Char} : codeLines text = [] ↔ ∀ c ∈ text, c = '\n' := by
  rw [← trimNewlines_eq_nil_iff]
  rcases codeLines_cases text with ⟨hempty, hlines⟩ | ⟨init, last, hconcat, hlast, hlines⟩
  · simp [hempty, hlines]
  · obtain ⟨line, hline⟩ := getLast?_splitLines_concat hlast init
    rw [← getLast?_dropReturns, ← hlines] at hline
    constructor
    · intro h
      rw [h] at hline
      exact nomatch hline
    · intro h
      simp [hconcat] at h

/-- Only line ends are lost when code is cut into lines. -/
lemma mem_codeLines_iff {c : Char} (hnewline : c ≠ '\n') (hreturn : c ≠ '\r') {text : List Char} :
    (∃ line ∈ codeLines text, c ∈ line) ↔ c ∈ text := by
  have htrim : c ∈ trimNewlines text ↔ c ∈ text := by
    obtain ⟨ends, htext, hends⟩ := exists_trimNewlines_append text
    conv_rhs => rw [htext, List.mem_append]
    exact ⟨Or.inl, fun h => h.resolve_right fun hmem => hnewline (hends c hmem)⟩
  rw [← htrim]
  rcases codeLines_cases text with ⟨hempty, hlines⟩ | ⟨init, last, hconcat, -, hlines⟩
  · simp [hempty, hlines]
  · rw [hconcat, hlines, mem_dropReturns_iff hreturn, mem_splitLines_iff hnewline]

/-- The last line of code ends in a character, which does not end a line. -/
lemma getLast?_codeLines {text line : List Char} (h : (codeLines text).getLast? = some line) :
    ∃ init c, line = init ++ [c] ∧ c ≠ '\n' := by
  rcases codeLines_cases text with ⟨-, hlines⟩ | ⟨init, last, -, hlast, hlines⟩
  · rw [hlines] at h
    exact nomatch h
  · obtain ⟨start, hstart⟩ := getLast?_splitLines_concat hlast init
    rw [hlines, getLast?_dropReturns, hstart] at h
    exact ⟨start, last, (Option.some.inj h).symm, hlast⟩

end Text

end SetupRecipe
