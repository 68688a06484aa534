import SetupRecipe.Proofs.GuardLines

/-!
# Nested guards

A body in guards, one around the other, is as far to the right as there are guards, two columns for each.
The first line of each guard and its last word stand two columns to the right of those of the guard around
it. Empty lines and literal lines of the body stay where they are, and of a line with newlines of its own
only the start moves.
-/

namespace SetupRecipe

lemma Text.splitLines_replicate_append (n : Nat) (text : List Char) :
    splitLines (List.replicate n ' ' ++ text) =
      (splitLines text).modifyHead (List.replicate n ' ' ++ ·) := by
  induction n with
  | zero => exact (congrFun List.modifyHead_id (splitLines text)).symm
  | succ n ih =>
    rw [List.replicate_succ, List.cons_append, splitLines_cons_of_ne (by decide), ih,
      List.modifyHead_modifyHead]
    rfl

namespace Shell

/-! ## Columns -/

/-- A run of spaces. -/
def spaces (n : Nat) : String := String.ofList (List.replicate n ' ')

lemma toList_spaces (n : Nat) : (spaces n).toList = List.replicate n ' ' := String.toList_ofList

lemma newline_not_mem_spaces_append (n : Nat) {text : String} (h : '\n' ∉ text.toList) :
    '\n' ∉ (spaces n ++ text).toList := by
  rw [String.toList_append, toList_spaces, List.mem_append, not_or]
  exact ⟨fun hmem => absurd (List.eq_of_mem_replicate hmem) (by decide), h⟩

lemma spaces_zero_append (text : String) : spaces 0 ++ text = text := by
  rw [← String.toList_inj, String.toList_append, toList_spaces, List.replicate_zero, List.nil_append]

lemma indent_spaces_append (n : Nat) {text : String} (h : text ≠ "") :
    (Line.code (spaces n ++ text)).indent = .code (spaces (n + 2) ++ text) := by
  have hne : spaces n ++ text ≠ "" := by simp [h]
  have hspaces : "  " ++ spaces n = spaces (n + 2) := by
    rw [← String.toList_inj, String.toList_append, toList_spaces, toList_spaces, Nat.add_comm,
      ← List.replicate_append_replicate]
    rfl
  rw [Line.indent, if_neg hne, ← String.append_assoc, hspaces]

namespace Line

/-- A line moved to the right: an empty code line and a literal line stay. -/
def movedBy (n : Nat) : Line → Line
  | code text => code (if text = "" then "" else spaces n ++ text)
  | literal text => literal text

/-- The lines on the page of a line moved to the right: only the first one of them moves. -/
def pageMovedBy (n : Nat) : Line → List (List Char)
  | code text =>
    if text = "" then [[]]
    else (Text.splitLines text.toList).modifyHead (List.replicate n ' ' ++ ·)
  | literal text => Text.splitLines text.toList

lemma movedBy_zero (line : Line) : line.movedBy 0 = line := by
  cases line with
  | literal text => rfl
  | code text =>
    by_cases htext : text = ""
    · rw [movedBy, if_pos htext, htext]
    · rw [movedBy, if_neg htext, spaces_zero_append]

lemma indent_movedBy (n : Nat) (line : Line) : (line.movedBy n).indent = line.movedBy (n + 2) := by
  cases line with
  | literal text => rfl
  | code text =>
    by_cases htext : text = ""
    · simp [movedBy, indent, htext]
    · rw [movedBy, if_neg htext, indent_spaces_append n htext, movedBy, if_neg htext]

lemma splitLines_movedBy (n : Nat) (line : Line) :
    Text.splitLines (line.movedBy n).text.toList = line.pageMovedBy n := by
  cases line with
  | literal text => rfl
  | code text =>
    by_cases htext : text = ""
    · rw [movedBy, if_pos htext, pageMovedBy, if_pos htext]
      rfl
    · rw [movedBy, if_neg htext, pageMovedBy, if_neg htext, Line.text, String.toList_append,
        toList_spaces, Text.splitLines_replicate_append]

end Line

namespace Fragment

/-! ## Guards, one around the other -/

/-- A body in a guard for each test, the first one outermost. -/
def nested (tests : List String) (body : Fragment) : Fragment := tests.foldr guarded body

/-- The first lines of nested guards, from the outermost one to the innermost one. -/
def openings (tests : List String) : List Line :=
  tests.mapIdx fun depth test => .code (spaces (2 * depth) ++ ("if ! " ++ test ++ "; then"))

/-- The last lines of nested guards, from the innermost one to the outermost one. -/
def endings (n : Nat) : List Line :=
  (List.range n).reverse.map fun depth => .code (spaces (2 * depth) ++ "fi")

/-- What is inside of nested guards: the body, or a command that does nothing. -/
def inside (n : Nat) (body : Fragment) : List Line :=
  if body.isEmpty then [.code (spaces (2 * n) ++ ":")] else body.lines.map (Line.movedBy (2 * n))

/-- The lines between the first lines of nested guards and the last ones. -/
def between (n : Nat) (fragment : Fragment) : List Line := (fragment.lines.drop n).rdrop n

lemma inside_zero (body : Fragment) : inside 0 body = (if body.isEmpty then noOp else body).lines := by
  by_cases hempty : body.isEmpty
  · rw [inside, if_pos hempty, if_pos hempty, Nat.mul_zero, spaces_zero_append]
    rfl
  · have hstay : Line.movedBy 0 = id := funext Line.movedBy_zero
    rw [inside, if_neg hempty, if_neg hempty, Nat.mul_zero, hstay, List.map_id]

lemma inside_succ (n : Nat) (body : Fragment) :
    inside (n + 1) body = (inside n body).map Line.indent := by
  by_cases hempty : body.isEmpty
  · have hcolon : (Line.code (spaces (2 * n) ++ ":")).indent = .code (spaces (2 * n + 2) ++ ":") :=
      indent_spaces_append _ (by decide)
    rw [inside, if_pos hempty, inside, if_pos hempty, List.map_singleton, hcolon, Nat.mul_succ]
  · have hmoved : Line.indent ∘ Line.movedBy (2 * n) = Line.movedBy (2 * n + 2) :=
      funext (Line.indent_movedBy (2 * n))
    rw [inside, if_neg hempty, inside, if_neg hempty, List.map_map, hmoved, Nat.mul_succ]

lemma openings_cons (test : String) (tests : List String) :
    openings (test :: tests) =
      .code ("if ! " ++ test ++ "; then") :: (openings tests).map Line.indent := by
  have hmoved : tests.mapIdx (fun depth test =>
        Line.code (spaces (2 * (depth + 1)) ++ ("if ! " ++ test ++ "; then"))) =
      (openings tests).map Line.indent := by
    apply List.ext_getElem?
    intro depth
    rw [openings, List.getElem?_mapIdx, List.getElem?_map, List.getElem?_mapIdx, Option.map_map]
    congr
    funext test
    exact (indent_spaces_append (2 * depth) (by simp)).symm
  rw [openings, List.mapIdx_cons, hmoved, Nat.mul_zero, spaces_zero_append]

lemma endings_succ (n : Nat) : endings (n + 1) = (endings n).map Line.indent ++ [.code "fi"] := by
  have hmoved : (List.range n).reverse.map (fun depth => Line.code (spaces (2 * (depth + 1)) ++ "fi")) =
      (endings n).map Line.indent := by
    rw [endings, List.map_map]
    congr
    funext depth
    exact (indent_spaces_append (2 * depth) (by decide)).symm
  rw [endings, List.range_succ_eq_map, List.reverse_cons, List.map_append, ← List.map_reverse,
    List.map_map, ← hmoved]
  rfl

/-! ## Lines -/

lemma newline_not_mem_opening {test : String} (h : '\n' ∉ test.toList) :
    '\n' ∉ ("if ! " ++ test ++ "; then").toList := by
  simp only [String.toList_append, List.mem_append, not_or]
  exact ⟨⟨by decide, h⟩, by decide⟩

lemma lines_guarded {test : String} (h : '\n' ∉ test.toList) (body : Fragment) :
    (guarded test body).lines =
      .code ("if ! " ++ test ++ "; then") :: (inside 1 body ++ [.code "fi"]) := by
  have hopening : ofCode ("if ! " ++ test ++ "; then") = ofLine ("if ! " ++ test ++ "; then") :=
    ofCode_eq_ofLine (by simp) (newline_not_mem_opening h)
  have hfi : ofCode "fi" = ofLine "fi" := ofCode_eq_ofLine (by decide) (by decide)
  rw [guarded, hopening, hfi, inside_succ, inside_zero]
  rfl

/-- Every guard moves what is in it two columns to the right, the guards in it included. -/
lemma lines_nested_eq {tests : List String} (hsome : tests ≠ [])
    (htests : ∀ test ∈ tests, '\n' ∉ test.toList) (body : Fragment) :
    (nested tests body).lines =
      openings tests ++ inside tests.length body ++ endings tests.length := by
  induction tests with
  | nil => exact absurd rfl hsome
  | cons test tests ih =>
    rw [List.forall_mem_cons] at htests
    have houter : (nested (test :: tests) body).lines = .code ("if ! " ++ test ++ "; then") ::
        (inside 1 (nested tests body) ++ [.code "fi"]) := lines_guarded htests.1 _
    rw [houter, openings_cons, List.length_cons, endings_succ]
    cases tests with
    | nil => rfl
    | cons next tests =>
      have hinner := ih (List.cons_ne_nil next tests) htests.2
      have hfull : ¬ (nested (next :: tests) body).isEmpty := by
        rw [isEmpty, hinner, openings_cons]
        exact Bool.false_ne_true
      have hmoved : inside 1 (nested (next :: tests) body) =
          (openings (next :: tests) ++ inside (next :: tests).length body ++
            endings (next :: tests).length).map Line.indent := by
        rw [inside_succ, inside_zero, if_neg hfull, hinner]
      rw [hmoved, inside_succ (next :: tests).length, List.map_append, List.map_append]
      simp only [List.append_assoc, List.cons_append]

lemma length_openings (tests : List String) : (openings tests).length = tests.length :=
  List.length_mapIdx

lemma length_endings (n : Nat) : (endings n).length = n := by
  rw [endings, List.length_map, List.length_reverse, List.length_range]

lemma between_nested {tests : List String} (hsome : tests ≠ [])
    (htests : ∀ test ∈ tests, '\n' ∉ test.toList) (body : Fragment) :
    between tests.length (nested tests body) = inside tests.length body := by
  have hdrop (rest : List Line) : (openings tests ++ rest).drop tests.length = rest :=
    List.drop_left' (length_openings tests)
  have hrdrop (front : List Line) :
      (front ++ endings tests.length).rdrop (endings tests.length).length = front :=
    List.rdrop_append_length
  rw [length_endings] at hrdrop
  rw [between, lines_nested_eq hsome htests, List.append_assoc, hdrop, hrdrop]

lemma inside_append {n : Nat} {a b : Fragment} (h : ¬ a.isEmpty ∨ ¬ b.isEmpty) :
    inside n (a ++ b) =
      (if a.isEmpty then [] else inside n a) ++ (if b.isEmpty then [] else inside n b) := by
  have hpart (fragment : Fragment) :
      (if fragment.isEmpty then [] else inside n fragment) =
        fragment.lines.map (Line.movedBy (2 * n)) := by
    by_cases hempty : fragment.isEmpty
    · rw [if_pos hempty, List.isEmpty_iff.mp hempty, List.map_nil]
    · rw [if_neg hempty, inside, if_neg hempty]
  have hfull : ¬ (a ++ b).isEmpty := by
    simpa [isEmpty, ← not_and_or] using h
  rw [hpart, hpart, inside, if_neg hfull, lines_append, List.map_append]

/-! ## Lines on the page -/

lemma flatMap_splitLines {lines : List Line} (h : ∀ line ∈ lines, '\n' ∉ line.text.toList) :
    lines.flatMap (fun line => Text.splitLines line.text.toList) =
      lines.map fun line => line.text.toList := by
  induction lines with
  | nil => rfl
  | cons line lines ih =>
    rw [List.forall_mem_cons] at h
    rw [List.flatMap_cons, Text.splitLines_of_not_mem h.1, ih h.2]
    rfl

lemma newline_not_mem_openings {tests : List String} (htests : ∀ test ∈ tests, '\n' ∉ test.toList) :
    ∀ line ∈ openings tests, '\n' ∉ line.text.toList := by
  intro line hline
  obtain ⟨depth, hdepth, rfl⟩ := List.mem_mapIdx.mp hline
  have htest : '\n' ∉ (tests[depth]).toList := htests _ (List.getElem_mem hdepth)
  exact newline_not_mem_spaces_append _ (newline_not_mem_opening htest)

lemma newline_not_mem_endings (n : Nat) : ∀ line ∈ endings n, '\n' ∉ line.text.toList := by
  intro line hline
  obtain ⟨depth, -, rfl⟩ := List.mem_map.mp hline
  exact newline_not_mem_spaces_append _ (by decide)

/-- What is inside of nested guards on the page. -/
def pageInside (n : Nat) (body : Fragment) : List (List Char) :=
  if body.isEmpty then [(spaces (2 * n) ++ ":").toList]
  else body.lines.flatMap (Line.pageMovedBy (2 * n))

lemma flatMap_splitLines_inside (n : Nat) (body : Fragment) :
    (inside n body).flatMap (fun line => Text.splitLines line.text.toList) = pageInside n body := by
  by_cases hempty : body.isEmpty
  · have hcolon : '\n' ∉ (spaces (2 * n) ++ ":").toList := newline_not_mem_spaces_append _ (by decide)
    rw [inside, if_pos hempty, pageInside, if_pos hempty]
    rw [List.flatMap_singleton, Line.text, Text.splitLines_of_not_mem hcolon]
  · rw [inside, if_neg hempty, pageInside, if_neg hempty, List.flatMap_map]
    exact List.flatMap_congr fun line _ => line.splitLines_movedBy (2 * n)

/-- Nested guards open on one line for each test and close on one line each, two columns apart, and move
what is inside of them by two columns for each guard. Literal lines and empty lines do not move, and of a
line with newlines only the start does. Two bodies together fill the guards with what each of them does. -/
theorem lines_nested {tests : List String} (hsome : tests ≠ [])
    (htests : ∀ test ∈ tests, '\n' ∉ test.toList) :
    (∀ body, (nested tests body).lines =
      openings tests ++ inside tests.length body ++ endings tests.length) ∧
    (∀ body, Text.splitLines (nested tests body).text.toList =
      (openings tests).map (fun line => line.text.toList) ++ pageInside tests.length body ++
        (endings tests.length).map fun line => line.text.toList) ∧
    ∀ a b : Fragment, ¬ a.isEmpty ∨ ¬ b.isEmpty →
      between tests.length (nested tests (a ++ b)) =
        (if a.isEmpty then [] else between tests.length (nested tests a)) ++
          (if b.isEmpty then [] else between tests.length (nested tests b)) := by
  have hlines := lines_nested_eq hsome htests
  refine ⟨hlines, fun body => ?_, fun a b h => ?_⟩
  · have hfull : (nested tests body).lines ≠ [] := by
      rw [hlines]
      simp [openings, hsome]
    rw [splitLines_text hfull, pageLines, hlines, List.flatMap_append, List.flatMap_append,
      flatMap_splitLines (newline_not_mem_openings htests),
      flatMap_splitLines (newline_not_mem_endings tests.length), flatMap_splitLines_inside]
  · rw [between_nested hsome htests, between_nested hsome htests, between_nested hsome htests,
      inside_append h]

/-- Code with a here-document, an empty line and a line with a newline of its own. -/
def keepNotes : Fragment :=
  ofCode "cat <<'GALLEY_EOF' > notes" ++ ofLiteral "  keep\nGALLEY_EOF" ++ ofCode "ls\n\ndate" ++
    ofLine "echo 'a\nb'"

theorem lines_nested_keepNotes :
    ["test -d y", "test -e x"] ≠ [] ∧ (∀ test ∈ ["test -d y", "test -e x"], '\n' ∉ test.toList) ∧
      (nested ["test -d y", "test -e x"] keepNotes).lines =
        [.code "if ! test -d y; then", .code "  if ! test -e x; then",
          .code "    cat <<'GALLEY_EOF' > notes", .literal "  keep", .literal "GALLEY_EOF",
          .code "    ls", .code "", .code "    date", .code "    echo 'a\nb'", .code "  fi", .code "fi"] ∧
      Text.splitLines (nested ["test -d y", "test -e x"] (ofLine "echo 'a\nb'")).text.toList =
        ["if ! test -d y; then".toList, "  if ! test -e x; then".toList, "    echo 'a".toList,
          "b'".toList, "  fi".toList, "fi".toList] ∧
      between 2 (nested ["test -d y", "test -e x"] empty) = [.code "    :"] ∧
      between 2 (nested ["test -d y", "test -e x"] (empty ++ keepNotes)) =
        [] ++ between 2 (nested ["test -d y", "test -e x"] keepNotes) := by
  have hsome : ["test -d y", "test -e x"] ≠ [] := by decide
  have htests : ∀ test ∈ ["test -d y", "test -e x"], '\n' ∉ test.toList := by decide
  obtain ⟨hlines, hpage, hbetween⟩ := lines_nested hsome htests
  refine ⟨hsome, htests, ?_, ?_, ?_, hbetween empty keepNotes (.inr (by decide))⟩
  · rw [hlines]
    decide
  · rw [hpage]
    decide
  · rfl

end Fragment

end Shell

end SetupRecipe
