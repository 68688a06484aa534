import SetupRecipe.Program.Run
import SetupRecipe.Proofs.FragmentActions

/-!
# Contents given by lines

A file can be given its content line by line. The lines are joined with newlines between them, and the
here-document ends the last line itself. Where these two conventions meet, a last line with nothing in
it is lost; all other lines are written, each ended by one newline.
-/

namespace SetupRecipe

open Shell (Fragment Heredoc ScriptReader)

namespace Text

/-- The text of lines that are each ended by a newline. -/
def ended (lines : List String) : String := String.ofList (endLines (lines.map String.toList))

lemma toList_ended (lines : List String) : (ended lines).toList = endLines (lines.map String.toList) :=
  String.toList_ofList

lemma splitLines_intercalate {lines : List String} (hne : lines ≠ [])
    (h : ∀ line ∈ lines, '\n' ∉ line.toList) :
    splitLines (String.intercalate "\n" lines).toList = lines.map String.toList := by
  induction lines with
  | nil => exact absurd rfl hne
  | cons line lines ih =>
    rw [List.forall_mem_cons] at h
    cases lines with
    | nil => simpa using splitLines_of_not_mem h.1
    | cons next lines =>
      have hrest := ih (List.cons_ne_nil next lines) h.2
      rw [String.intercalate_cons_cons, String.toList_append, String.toList_append, List.append_assoc,
        show "\n".toList ++ (String.intercalate "\n" (next :: lines)).toList =
          '\n' :: (String.intercalate "\n" (next :: lines)).toList from rfl,
        splitLines_append_newline, splitLines_of_not_mem h.1, hrest]
      rfl

lemma getLast?_endLines {lines : List (List Char)} (h : lines ≠ []) :
    (endLines lines).getLast? = some '\n' := by
  obtain ⟨init, last, rfl⟩ := List.eq_nil_or_concat lines |>.resolve_left h
  simp [endLines]

/-- Joined lines are ended lines, but for the newline of the last one. -/
lemma toList_intercalate_concat (lines : List String) (last : String) :
    (String.intercalate "\n" (lines ++ [last])).toList =
      endLines (lines.map String.toList) ++ last.toList := by
  have hjoined := Shell.Fragment.toList_intercalate_newline (List.concat_ne_nil last lines)
  rw [List.map_append, endLines_append, String.toList_append] at hjoined
  have hlast : endLines ([last].map String.toList) = last.toList ++ "\n".toList := by
    simp [endLines]
  rw [hlast, ← List.append_assoc] at hjoined
  exact List.append_cancel_right hjoined

lemma count_newline_ended {lines : List String} (h : ∀ line ∈ lines, '\n' ∉ line.toList) :
    (ended lines).toList.count '\n' = lines.length := by
  rw [toList_ended]
  induction lines with
  | nil => rfl
  | cons line lines ih =>
    rw [List.forall_mem_cons] at h
    have hline : line.toList.count '\n' = 0 := List.count_eq_zero.mpr h.1
    have hended : endLines ((line :: lines).map String.toList) =
        line.toList ++ '\n' :: endLines (lines.map String.toList) := by simp [endLines]
    rw [hended, List.count_append, hline, List.count_cons_self, ih h.2, List.length_cons, Nat.zero_add]

end Text

namespace Shell

lemma not_hasTagLine_intercalate {lines : List String}
    (h : ∀ line ∈ lines, '\n' ∉ line.toList ∧ line ≠ heredocTag) :
    ¬ HasTagLine (String.intercalate "\n" lines) := by
  unfold HasTagLine
  by_cases hne : lines = []
  · subst hne
    decide
  · rw [Text.splitLines_intercalate hne fun line hline => (h line hline).1, List.mem_map]
    rintro ⟨line, hline, htag⟩
    exact (h line hline).2 (String.toList_inj.mp htag)

/-- The newline before an empty last line is taken for the one that ends the line before. -/
lemma written_of_empty_last (lines : List String) :
    Heredoc.written (String.intercalate "\n" (lines ++ [""])) = Text.ended lines := by
  have hjoined := Text.toList_intercalate_concat lines ""
  rw [String.toList_empty, List.append_nil] at hjoined
  have hended : String.intercalate "\n" (lines ++ [""]) = "" ∨
      (String.intercalate "\n" (lines ++ [""])).toList.getLast? = some '\n' := by
    by_cases hlines : lines = []
    · subst hlines
      exact .inl rfl
    · right
      rw [hjoined, Text.getLast?_endLines (by simpa using hlines)]
  rw [Heredoc.written, if_pos hended, ← String.toList_inj, hjoined, Text.toList_ended]

lemma written_of_last_ne {lines : List String} {last : String} (hne : last ≠ "")
    (hnewline : '\n' ∉ last.toList) :
    Heredoc.written (String.intercalate "\n" (lines ++ [last])) = Text.ended (lines ++ [last]) := by
  have hjoined := Text.toList_intercalate_concat lines last
  have hlast : last.toList ≠ [] := by simpa using hne
  have hunended : (String.intercalate "\n" (lines ++ [last])).toList.getLast? ≠ some '\n' := by
    rw [hjoined, List.getLast?_append_of_ne_nil _ hlast]
    exact fun hend => hnewline (List.mem_of_getLast? hend)
  have hnonempty : String.intercalate "\n" (lines ++ [last]) ≠ "" := by
    intro hempty
    rw [hempty, String.toList_empty] at hjoined
    exact hlast (List.append_eq_nil_iff.mp hjoined.symm).2
  rw [Heredoc.written, if_neg (not_or.mpr ⟨hnonempty, hunended⟩), ← String.toList_inj,
    Text.toList_ended, Fragment.toList_intercalate_newline (List.concat_ne_nil last lines)]

/-- What a shell writes for lines with newlines between them. -/
lemma written_intercalate {lines : List String} (h : ∀ line ∈ lines, '\n' ∉ line.toList) :
    Heredoc.written (String.intercalate "\n" lines) =
      Text.ended (if lines.getLast? = some "" then lines.dropLast else lines) := by
  rcases List.eq_nil_or_concat' lines with rfl | ⟨init, last, rfl⟩
  · rfl
  · rw [List.getLast?_concat, List.dropLast_concat]
    by_cases hlast : last = ""
    · rw [hlast, if_pos rfl, written_of_empty_last]
    · have hnewline := h last (List.mem_append_right init List.mem_cons_self)
      rw [if_neg (by simpa using hlast), written_of_last_ne hlast hnewline]

namespace Fragment

/-- A fragment that supplies a content to the command on the line before it, however far the code
around it is indented. -/
def Supplies (fragment : Fragment) (content : String) : Prop :=
  ∀ n path actions guards,
    ScriptReader.feed ⟨.payload path [] [], [], actions, guards⟩ (fragment.shifted n) =
      some ⟨.code, [], actions ++ [.write path content], guards⟩

lemma supplies_body {content : String} {doc : Heredoc}
    (hdoc : Heredoc.ofContent? content = some doc) :
    (ofLiteral doc.body).Supplies (Heredoc.written content) := by
  intro n path actions guards
  rw [shifted_ofLiteral]
  exact ScriptReader.feed_body hdoc path actions guards

end Fragment

/-- A here-document for lines. -/
lemma writeFile_intercalate {lines : List String}
    (h : ∀ line ∈ lines, '\n' ∉ line.toList ∧ line ≠ heredocTag) (origin : Origin) (path : String) :
    ∃ payload : Fragment,
      writeFile origin path (String.intercalate "\n" lines) =
        .ok (Fragment.ofCode ("cat " ++ Heredoc.operator ++ " > " ++ path) ++ payload) ∧
      payload.Supplies (Heredoc.written (String.intercalate "\n" lines)) := by
  cases hdoc : Heredoc.ofContent? (String.intercalate "\n" lines) with
  | none => exact absurd ((Heredoc.ofContent?_eq_none_iff _).mp hdoc) (not_hasTagLine_intercalate h)
  | some doc =>
    refine ⟨Fragment.ofLiteral doc.body, ?_, Fragment.supplies_body hdoc⟩
    simp only [writeFile, hdoc]

end Shell

/-- The lines of a file are written each with one newline after it, but an empty last line is lost. -/
theorem contentLines_written {lines : List String}
    (hlines : ∀ line ∈ lines, '\n' ∉ line.toList ∧ line ≠ Shell.heredocTag) {s : FileSettings}
    (hs : s.content = none) {origin : Origin} {path : String}
    (hpath : requiredPath origin s.path = .ok path) {mode : Fragment}
    (hmode : changeMode origin path s.mode = .ok mode) (before : Fragment) :
    ∃ (payload : Fragment) (written : String),
      let write := Fragment.ofCode ("cat " ++ Heredoc.operator ++ " > " ++ path) ++ payload
      ((Settings.file s).set (.contentLines lines)).render origin false (.ok before) =
        .ok (Fragment.guarded (existsTest path) (before ++ write ++ mode)) ∧
      payload.Supplies written ∧ (Shell.IsBare path → write.ReadsAs [.write path written]) ∧
      (written = Text.ended lines ↔ lines.getLast? ≠ some "") ∧
      (lines.getLast? = some "" → written = Text.ended lines.dropLast) ∧
      (Text.ended lines).toList.count '\n' = lines.length := by
  have hnewline : ∀ line ∈ lines, '\n' ∉ line.toList := fun line hline => (hlines line hline).1
  have hcount := Text.count_newline_ended hnewline
  have hwritten := Shell.written_intercalate hnewline
  obtain ⟨payload, hwrite, hsupplies⟩ := Shell.writeFile_intercalate hlines origin path
  refine ⟨payload, _, ?_, hsupplies, fun hbare => .writeFile hbare hwrite, ⟨?_, ?_⟩, ?_, hcount⟩
  · simp only [Settings.set, Settings.render, FileSettings.render, FileSettings.declaredContent, hs,
      FileSettings.create, hpath, hwrite, hmode, bind, Except.bind, Bool.false_eq_true, ite_false]
    rfl
  · intro hall hlast
    have hfewer : ∀ line ∈ lines.dropLast, '\n' ∉ line.toList :=
      fun line hline => hnewline line (List.dropLast_subset lines hline)
    rw [← hall, hwritten, if_pos hlast, Text.count_newline_ended hfewer, List.length_dropLast] at hcount
    have hpos : 0 < lines.length := List.length_pos_of_mem (List.mem_of_getLast? hlast)
    omega
  · intro hlast
    rw [hwritten, if_neg hlast]
  · intro hlast
    rw [hwritten, if_pos hlast]

theorem contentLines_written_hosts :
    let lines := ["# hosts", "", "127.0.0.1 localhost"]
    let settings : FileSettings := ⟨some "/etc/hosts", none, none, some 0o644⟩
    (∀ line ∈ lines, '\n' ∉ line.toList ∧ line ≠ Shell.heredocTag) ∧ settings.content = none ∧
      requiredPath ⟨.block .file, "hosts", 0⟩ settings.path = .ok "/etc/hosts" ∧
      changeMode ⟨.block .file, "hosts", 0⟩ "/etc/hosts" settings.mode =
        .ok (Fragment.ofCode "chmod 0644 /etc/hosts") ∧
      ∃ payload : Fragment,
        let write := Fragment.ofCode ("cat " ++ Heredoc.operator ++ " > " ++ "/etc/hosts") ++ payload
        ((Settings.file settings).set (.contentLines lines)).render ⟨.block .file, "hosts", 0⟩ false
          (.ok .empty) =
          .ok (Fragment.guarded (existsTest "/etc/hosts")
            (Fragment.empty ++ write ++ Fragment.ofCode "chmod 0644 /etc/hosts")) ∧
        write.ReadsAs [.write "/etc/hosts" "# hosts\n\n127.0.0.1 localhost\n"] := by
  intro lines settings
  have hlines : ∀ line ∈ lines, '\n' ∉ line.toList ∧ line ≠ Shell.heredocTag := by decide
  have hmode : changeMode ⟨.block .file, "hosts", 0⟩ "/etc/hosts" settings.mode =
      .ok (Fragment.ofCode "chmod 0644 /etc/hosts") := by decide +kernel
  obtain ⟨payload, written, hrender, -, hreads, hwritten, -⟩ :=
    contentLines_written (s := settings) hlines rfl rfl hmode Fragment.empty
  obtain rfl := hwritten.mpr (by decide)
  exact ⟨hlines, rfl, rfl, hmode, payload, hrender, hreads (by decide)⟩

/-- A file with a line and an empty line. -/
def emptyLastLine : Program :=
  [.block .file (.text "/f") [.set (.contentLines [.text "a", .text ""])]]

theorem emptyLastLine_lost :
    (∀ line ∈ ["a", ""], '\n' ∉ line.toList ∧ line ≠ Shell.heredocTag) ∧
      ∃ block script, Program.evaluate Program.defaultDepth emptyLastLine .empty = some block ∧
        block.script = .ok script ∧
        Shell.readScript? script = some [.guarded "test -e /f" [.write "/f" "a\n"]] ∧
        Text.ended ["a", ""] = "a\n\n" := by
  exact ⟨by decide, _, _, rfl, rfl, rfl, by decide⟩

end SetupRecipe
