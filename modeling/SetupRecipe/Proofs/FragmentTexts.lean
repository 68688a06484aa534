import SetupRecipe.Proofs.LineEnds

/-!
# Texts of fragments

Code that is cut into lines and put together again has lost the newlines at its end and one carriage
return before every other newline, and nothing else. Literal text comes back as it was. The text of two
fragments, one after the other, is their two texts with a newline in between.
-/

namespace SetupRecipe

namespace Text

/-! ## Returns before newlines -/

/-- A text without the carriage returns that stand directly before a newline. -/
def withoutReturns : List Char → List Char
  | [] => []
  | c :: rest =>
    if c = '\r' ∧ rest.head? = some '\n' then withoutReturns rest else c :: withoutReturns rest

lemma withoutReturns_of_not_mem {line : List Char} (h : '\n' ∉ line) : withoutReturns line = line := by
  induction line with
  | nil => rfl
  | cons c line ih =>
    rw [List.mem_cons, not_or] at h
    have hhead : line.head? ≠ some '\n' := fun hhead => h.2 (List.mem_of_head? hhead)
    rw [withoutReturns, if_neg fun hreturn => hhead hreturn.2, ih h.2]

lemma dropFinalReturn_cons_cons (c next : Char) (line : List Char) :
    dropFinalReturn (c :: next :: line) = c :: dropFinalReturn (next :: line) := by
  unfold dropFinalReturn
  rw [List.getLast?_cons_cons, List.dropLast_cons_cons]
  split
  · rfl
  · rfl

/-- Of a line before a newline, the return at its end is dropped. -/
lemma withoutReturns_append_newline {line : List Char} (h : '\n' ∉ line) (rest : List Char) :
    withoutReturns (line ++ '\n' :: rest) = dropFinalReturn line ++ '\n' :: withoutReturns rest := by
  induction line with
  | nil =>
    have hnewline : withoutReturns ('\n' :: rest) = '\n' :: withoutReturns rest := by
      rw [withoutReturns, if_neg (by simp)]
    exact hnewline
  | cons c line ih =>
    rw [List.mem_cons, not_or] at h
    rw [List.cons_append, withoutReturns, ih h.2]
    cases line with
    | nil =>
      by_cases hc : c = '\r'
      · simp [dropFinalReturn, hc]
      · simp [dropFinalReturn, hc]
    | cons next line =>
      have hnext : next ≠ '\n' := fun heq => h.2 (heq ▸ List.mem_cons_self)
      rw [if_neg (by simp [hnext]), dropFinalReturn_cons_cons, List.cons_append]

/-! ## Lines put together -/

lemma joinLines_cons {lines : List (List Char)} (h : lines ≠ []) (line : List Char) :
    joinLines (line :: lines) = line ++ '\n' :: joinLines lines := by
  cases lines with
  | nil => exact absurd rfl h
  | cons next lines => rfl

lemma joinLines_eq_intercalate (lines : List (List Char)) :
    joinLines lines = ['\n'].intercalate lines := by
  induction lines with
  | nil => rfl
  | cons line lines ih =>
    by_cases h : lines = []
    · simp [h, joinLines]
    · rw [joinLines_cons h, ih, List.intercalate_cons_of_ne_nil h, List.append_assoc,
        List.singleton_append]

lemma joinLines_dropReturns {lines : List (List Char)} (h : ∀ line ∈ lines, '\n' ∉ line) :
    joinLines (dropReturns lines) = withoutReturns (joinLines lines) := by
  induction lines with
  | nil => rfl
  | cons line lines ih =>
    rw [List.forall_mem_cons] at h
    cases lines with
    | nil => exact (withoutReturns_of_not_mem h.1).symm
    | cons next lines =>
      have hrest : dropReturns (next :: lines) ≠ [] := by
        intro hnil
        have hlast := getLast?_dropReturns (next :: lines)
        rw [hnil, List.getLast?_nil] at hlast
        exact absurd (List.getLast?_eq_none_iff.mp hlast.symm) (List.cons_ne_nil next lines)
      rw [dropReturns_cons_cons, joinLines_cons hrest, ih h.2, joinLines_cons (List.cons_ne_nil _ _),
        withoutReturns_append_newline h.1]

/-- Lines of code put together are the code, but for its line ends. -/
lemma joinLines_codeLines (text : List Char) :
    joinLines (codeLines text) = withoutReturns (trimNewlines text) := by
  rcases codeLines_cases text with ⟨hempty, hlines⟩ | ⟨init, last, hconcat, -, hlines⟩
  · rw [hempty, hlines]
    rfl
  · rw [hconcat, hlines, joinLines_dropReturns fun _ => newline_not_mem_of_mem_splitLines,
      joinLines_splitLines]

lemma newline_not_mem_of_mem_codeLines {text line : List Char} (h : line ∈ codeLines text) :
    '\n' ∉ line := by
  rcases codeLines_cases text with ⟨-, hlines⟩ | ⟨init, last, -, -, hlines⟩
  · rw [hlines] at h
    exact absurd h List.not_mem_nil
  · rw [hlines] at h
    obtain ⟨whole, hwhole, hwithin⟩ := exists_mem_of_mem_dropReturns h
    exact fun hmem => newline_not_mem_of_mem_splitLines hwhole (hwithin.subset hmem)

end Text

namespace Shell.Fragment

/-! ## Texts -/

lemma empty_append (fragment : Fragment) : empty ++ fragment = fragment := rfl

lemma toList_text_eq_joinLines (fragment : Fragment) :
    fragment.text.toList = Text.joinLines (fragment.lines.map fun line => line.text.toList) := by
  rw [text, String.toList_intercalate, List.map_map, Text.joinLines_eq_intercalate]
  rfl

lemma text_ofCode (t : String) :
    (ofCode t).text = String.ofList (Text.withoutReturns (Text.trimNewlines t.toList)) := by
  have htexts : (ofCode t).lines.map (fun line => line.text.toList) = Text.codeLines t.toList := by
    simp [ofCode, Line.text, Function.comp_def]
  rw [← String.toList_inj, toList_text_eq_joinLines, htexts, Text.joinLines_codeLines,
    String.toList_ofList]

lemma text_ofLiteral (t : String) : (ofLiteral t).text = t := by
  have htexts : (ofLiteral t).lines.map (fun line => line.text.toList) = Text.splitLines t.toList := by
    simp [ofLiteral, Line.text, Function.comp_def]
  rw [← String.toList_inj, toList_text_eq_joinLines, htexts, Text.joinLines_splitLines]

lemma text_append {a b : Fragment} (ha : ¬ a.isEmpty) (hb : ¬ b.isEmpty) :
    (a ++ b).text = a.text ++ "\n" ++ b.text := by
  have hlines {fragment : Fragment} (h : ¬ fragment.isEmpty) : fragment.lines.map Line.text ≠ [] := by
    simpa [isEmpty] using h
  rw [text, lines_append, List.map_append]
  exact String.intercalate_append_of_ne_nil (hlines ha) (hlines hb)

lemma isEmpty_ofCode_iff {t : String} : (ofCode t).isEmpty ↔ ∀ c ∈ t.toList, c = '\n' := by
  rw [← Text.codeLines_eq_nil_iff, isEmpty, List.isEmpty_iff, ofCode, List.map_eq_nil_iff]

/-- Code is displayed without the newlines at its end and without one return before each newline that is
left, in lines that hold no newline and the last of which is not empty. Literal text is displayed as it
is, and of two fragments the one after the other with a newline in between. -/
theorem text_of_appended (t : String) :
    (∃ ends, t.toList = Text.trimNewlines t.toList ++ ends ∧ ∀ c ∈ ends, c = '\n') ∧
    (Text.trimNewlines t.toList).getLast? ≠ some '\n' ∧
    (empty ++ ofCode t).text = String.ofList (Text.withoutReturns (Text.trimNewlines t.toList)) ∧
    (∀ line ∈ (empty ++ ofCode t).lines, ∃ text, line = .code text ∧ '\n' ∉ text.toList) ∧
    (empty ++ ofCode t).lines.getLast? ≠ some (.code "") ∧
    ((empty ++ ofCode t).isEmpty ↔ ∀ c ∈ t.toList, c = '\n') ∧
    (empty ++ ofLiteral t).text = t ∧
    ∀ a b : Fragment, ¬ a.isEmpty → ¬ b.isEmpty → (a ++ b).text = a.text ++ "\n" ++ b.text := by
  refine ⟨Text.exists_trimNewlines_append t.toList, Text.getLast?_trimNewlines t.toList, text_ofCode t,
    ?_, ?_, isEmpty_ofCode_iff, text_ofLiteral t, fun a b => text_append⟩
  · intro line hline
    obtain ⟨chars, hchars, rfl⟩ := List.mem_map.mp hline
    refine ⟨String.ofList chars, rfl, ?_⟩
    rw [String.toList_ofList]
    exact Text.newline_not_mem_of_mem_codeLines hchars
  · intro hlast
    rw [empty_append, ofCode, List.getLast?_map, Option.map_eq_some_iff] at hlast
    obtain ⟨chars, hchars, hempty⟩ := hlast
    obtain ⟨init, c, rfl, -⟩ := Text.getLast?_codeLines hchars
    simp at hempty

theorem text_of_appended_lineEnds :
    (empty ++ ofCode "\r\nls\r\r\n\n  cd\r\n\n").text = "\nls\r\n\n  cd\r" ∧
      (empty ++ ofCode "\r\nls\r\r\n\n  cd\r\n\n").lines.getLast? ≠ some (.code "") ∧
      ¬ (ofCode "\r\n").isEmpty ∧ ¬ (ofLiteral "").isEmpty ∧
      (ofCode "\r\n" ++ ofLiteral "").text = (ofCode "\r\n").text ++ "\n" ++ (ofLiteral "").text ∧
      (empty ++ ofLiteral "\r\nls\r\r\n\n  cd\r\n\n").text = "\r\nls\r\r\n\n  cd\r\n\n" := by
  have hreturn : ¬ (ofCode "\r\n").isEmpty := by decide
  have hliteral : ¬ (ofLiteral "").isEmpty := by decide
  obtain ⟨-, -, hcode, -, hlast, -, htext, happend⟩ :=
    text_of_appended "\r\nls\r\r\n\n  cd\r\n\n"
  refine ⟨?_, hlast, hreturn, hliteral, happend _ _ hreturn hliteral, htext⟩
  rw [hcode]
  decide

end Shell.Fragment

end SetupRecipe
