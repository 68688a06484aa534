import SetupRecipe.Proofs.VisibleCode

/-!
# Guards on the page

A guard opens with one line for its test, ends in its last word and has something to do between the
two. Two things break it: newlines at the end of the test, which tear the first line apart, and commands
of which nothing shows, which leave nothing to do between the first line and the last.
-/

namespace SetupRecipe

open Shell (Fragment Line)

/-- A text without the newlines at its end. -/
def Text.trimmed (text : String) : String := String.ofList (Text.trimNewlines text.toList)

namespace Shell

/-- A script that opens with one line for a test, ends in the last word of a guard, and has a line
between these two on which something shows. -/
def GuardsBy (test script : String) : Prop :=
  ∃ between, Text.splitLines script.toList =
      ("if ! " ++ test ++ "; then").toList :: (between ++ ["fi".toList]) ∧
    ∃ line ∈ between, ∃ c ∈ line, Text.isBlank c = false

namespace Fragment

/-! ## Lines on the page -/

/-- The lines of the text of a fragment; a code line with newlines of its own is several of them. -/
def pageLines (fragment : Fragment) : List (List Char) :=
  fragment.lines.flatMap fun line => Text.splitLines line.text.toList

lemma pageLines_append (a b : Fragment) : (a ++ b).pageLines = a.pageLines ++ b.pageLines := by
  rw [pageLines, lines_append, List.flatMap_append]
  rfl

lemma splitLines_intercalate_newline {texts : List String} (h : texts ≠ []) :
    Text.splitLines (String.intercalate "\n" texts).toList =
      texts.flatMap fun text => Text.splitLines text.toList := by
  induction texts with
  | nil => exact absurd rfl h
  | cons text texts ih =>
    cases texts with
    | nil => simp
    | cons next texts =>
      have hrest := ih (List.cons_ne_nil next texts)
      have hjoin (rest : String) :
          (text ++ "\n" ++ rest).toList = text.toList ++ '\n' :: rest.toList := by simp
      rw [String.intercalate_cons_cons, hjoin, Text.splitLines_append_newline, hrest]
      rfl

lemma splitLines_text {fragment : Fragment} (h : fragment.lines ≠ []) :
    Text.splitLines fragment.text.toList = fragment.pageLines := by
  rw [text, splitLines_intercalate_newline (by simpa using h), List.flatMap_map]
  rfl

lemma shows_iff_pageLines {fragment : Fragment} :
    fragment.Shows ↔ ∃ line ∈ fragment.pageLines, ∃ c ∈ line, Text.isBlank c = false := by
  have hkept {c : Char} (hc : Text.isBlank c = false) (text : List Char) :
      (∃ line ∈ Text.splitLines text, c ∈ line) ↔ c ∈ text := by
    apply Text.mem_splitLines_iff
    rintro rfl
    exact absurd hc (by decide)
  constructor
  · rintro ⟨line, hline, c, hmem, hc⟩
    obtain ⟨chars, hchars, hin⟩ := (hkept hc line.text.toList).mpr hmem
    exact ⟨chars, List.mem_flatMap.mpr ⟨line, hline, hchars⟩, c, hin, hc⟩
  · rintro ⟨chars, hchars, c, hin, hc⟩
    obtain ⟨line, hline, hsplit⟩ := List.mem_flatMap.mp hchars
    exact ⟨line, hline, c, (hkept hc line.text.toList).mp ⟨chars, hsplit, hin⟩, hc⟩

/-! ## The first line of a guard -/

lemma pageLines_ofCode {text : String} (hempty : text ≠ "") (h : '\n' ∉ text.toList) :
    (ofCode text).pageLines = [text.toList] := by
  rw [ofCode_eq_ofLine hempty h]
  simp [pageLines, ofLine, Line.text, Text.splitLines_of_not_mem h]

/-- A newline in its test ends the first line of a guard. -/
lemma exists_pageLines_opening {test : String} {first rest : List Char}
    (htest : test.toList = first ++ '\n' :: rest) (hfirst : '\n' ∉ first) :
    ∃ more, (ofCode ("if ! " ++ test ++ "; then")).pageLines =
      Text.dropFinalReturn ("if ! ".toList ++ first) :: more := by
  have htext : ("if ! " ++ test ++ "; then").toList =
      ("if ! ".toList ++ first) ++ '\n' :: (rest ++ "; the".toList ++ ['n']) := by
    simp [htest]
  have hopening : '\n' ∉ "if ! ".toList ++ first := by
    rw [List.mem_append, not_or]
    exact ⟨by decide, hfirst⟩
  have hreturn : '\n' ∉ Text.dropFinalReturn ("if ! ".toList ++ first) :=
    fun hmem => hopening ((Text.dropFinalReturn_prefix _).subset hmem)
  obtain ⟨more, hlines⟩ := Text.exists_codeLines_cons hopening (c := 'n') (by decide)
    (rest ++ "; the".toList)
  rw [pageLines, ofCode, htext, hlines, List.map_cons, List.flatMap_cons, Line.text,
    String.toList_ofList, Text.splitLines_of_not_mem hreturn]
  exact ⟨_, rfl⟩

lemma pageLines_guarded (test : String) (body : Fragment) :
    Text.splitLines (guarded test body).text.toList =
      (ofCode ("if ! " ++ test ++ "; then")).pageLines ++
        ((if body.isEmpty then noOp else body).indented.pageLines ++ ["fi".toList]) := by
  have hfi : (ofCode "fi").pageLines = ["fi".toList] := pageLines_ofCode (by decide) (by decide)
  have hlines : (guarded test body).lines ≠ [] := by
    have hlast : (ofCode "fi").lines ≠ [] := by decide
    simp [guarded, hlast]
  rw [splitLines_text hlines, guarded, pageLines_append, pageLines_append, hfi, List.append_assoc]

lemma shows_inside_iff (body : Fragment) :
    (if body.isEmpty then noOp else body).indented.Shows ↔ body.lines = [] ∨ body.Shows := by
  rw [shows_indented_iff]
  by_cases hempty : body.isEmpty
  · rw [if_pos hempty]
    exact iff_of_true shows_noOp (.inl (List.isEmpty_iff.mp hempty))
  · have hlines : body.lines ≠ [] := by simpa [isEmpty] using hempty
    simp [hempty, hlines]

/-- A guard is one exactly if no newline ends its test and its body does not consist of blanks. -/
lemma guardsBy_guarded_iff {test : String} (hline : '\n' ∉ Text.trimNewlines test.toList)
    (body : Fragment) :
    GuardsBy (Text.trimmed test) (guarded test body).text ↔
      '\n' ∉ test.toList ∧ (body.lines = [] ∨ body.Shows) := by
  rw [GuardsBy, pageLines_guarded, ← shows_inside_iff, shows_iff_pageLines]
  obtain ⟨ends, htest, hends⟩ := Text.exists_trimNewlines_append test.toList
  cases ends with
  | nil =>
    rw [List.append_nil] at htest
    have htrimmed : Text.trimmed test = test := by
      rw [Text.trimmed, ← htest, String.ofList_toList]
    rw [← htest] at hline
    have hopening : '\n' ∉ ("if ! " ++ test ++ "; then").toList := by
      simp only [String.toList_append, List.mem_append, not_or]
      exact ⟨⟨by decide, hline⟩, by decide⟩
    rw [htrimmed, pageLines_ofCode (by simp) hopening, List.singleton_append]
    constructor
    · rintro ⟨between, hbetween, hshows⟩
      rw [← List.append_cancel_right (List.cons.inj hbetween).2] at hshows
      exact ⟨hline, hshows⟩
    · rintro ⟨-, hshows⟩
      exact ⟨_, rfl, hshows⟩
  | cons c rest =>
    obtain rfl := hends c List.mem_cons_self
    constructor
    · -- The first line is shorter than the opening of a guard: all that follows the test is missing.
      rintro ⟨between, hbetween, -⟩
      obtain ⟨more, hmore⟩ := exists_pageLines_opening htest hline
      rw [hmore, List.cons_append] at hbetween
      have hfirst := (Text.dropFinalReturn_prefix
        ("if ! ".toList ++ Text.trimNewlines test.toList)).length_le
      rw [(List.cons.inj hbetween).1] at hfirst
      simp only [Text.trimmed, String.toList_append, String.toList_ofList, List.length_append] at hfirst
      have hthen : "; then".toList.length = 6 := rfl
      omega
    · rintro ⟨hnone, -⟩
      rw [htest] at hnone
      simp at hnone

end Fragment

end Shell

/-! ## Resources -/

/-- The test of the guard that a resource renders to. -/
def Settings.guardTest? (origin : Origin) : Settings → Option String
  | .execute s => s.guard?
  | .file s => some (existsTest (origin.pathOr s.path))
  | .directory _ => none
  | .log _ => none
  | .gemfile s => some (existsTest (GemfileSettings.manifestPath (origin.pathOr s.path)))

lemma Settings.render_guarded {origin : Origin} {declares : Bool} {settings : Settings} {test : String}
    {body fragment : Fragment} (htest : settings.guardTest? origin = some test)
    (h : settings.render origin declares (.ok body) = .ok fragment) :
    ∃ inner, fragment = Fragment.guarded test inner ∧
      ((∀ s, settings ≠ .execute s) ∧ inner.Shows ∨
        ∃ s, settings = .execute s ∧ inner = s.changeDirectory ++ body) := by
  cases settings with
  | execute s =>
    obtain rfl := Except.ok.inj ((s.render_ok body).symm.trans h)
    have hguard : s.guard? = some test := htest
    rw [ExecuteSettings.wrap, hguard]
    exact ⟨_, rfl, .inr ⟨s, rfl, rfl⟩⟩
  | file s =>
    obtain rfl := Option.some.inj htest
    obtain ⟨content, before, write, mode, -, -, hwrite, -, rfl⟩ := s.render_eq_ok h
    refine ⟨_, rfl, .inl ⟨by simp, ?_⟩⟩
    rw [Fragment.shows_append_iff, Fragment.shows_append_iff]
    exact .inl (.inr (FileSettings.create_shows hwrite))
  | directory s => exact nomatch htest
  | log s => exact nomatch htest
  | gemfile s =>
    obtain rfl := Option.some.inj htest
    obtain ⟨before, write, -, hwrite, rfl⟩ := s.render_eq_ok h
    refine ⟨_, rfl, .inl ⟨by simp, ?_⟩⟩
    rw [Fragment.shows_append_iff]
    exact .inr (writeFile_shows hwrite)

lemma ExecuteSettings.changeDirectory_cases (s : ExecuteSettings) :
    s.cwd = none ∧ s.changeDirectory = Fragment.empty ∨ s.cwd ≠ none ∧ s.changeDirectory.Shows := by
  unfold changeDirectory
  cases hcwd : s.cwd with
  | none => exact .inl ⟨rfl, rfl⟩
  | some path =>
    exact .inr ⟨Option.some_ne_none path, Fragment.shows_ofCode_append ⟨'c', by decide, by decide⟩ path⟩

/-- A guarded resource renders to a guard with one line for its test and something to do in it, unless a
newline ends the test or the resource has nothing but commands of which nothing shows. In every case the
last line is that of the guard. -/
theorem guardsBy_iff {origin : Origin} {settings : Settings} {body : Block} {test : String}
    {fragment : Fragment} (htest : settings.guardTest? origin = some test)
    (hline : '\n' ∉ Text.trimNewlines test.toList)
    (h : (Child.block origin settings body).render = .ok fragment) :
    (∃ front, Text.splitLines fragment.text.toList = front ++ ["fi".toList]) ∧
    (Shell.GuardsBy (Text.trimmed test) fragment.text ↔ '\n' ∉ test.toList ∧
      ¬ ((∃ s, settings = .execute s ∧ s.cwd = none) ∧ body.onlyCommands Text.isBlankText ∧
        ¬ body.onlyCommands Text.isNewlines)) := by
  obtain ⟨fragments, hfragments, h⟩ := Child.render_block_eq_ok h
  obtain ⟨inner, rfl, hinner⟩ := Settings.render_guarded htest h
  constructor
  · rw [Fragment.pageLines_guarded, ← List.append_assoc]
    exact ⟨_, rfl⟩
  · rw [Fragment.guardsBy_guarded_iff hline, Block.onlyBlanks_iff hfragments,
      Block.onlyNewlines_iff hfragments]
    refine and_congr_right fun _ => ?_
    rcases hinner with ⟨hother, hshows⟩ | ⟨s, rfl, rfl⟩
    · exact iff_of_true (.inr hshows) fun hblank => hblank.1.elim fun s hs => hother s hs.1
    · rcases s.changeDirectory_cases with ⟨hcwd, hnone⟩ | ⟨hcwd, hsome⟩
      · have hexecute : ∃ t, Settings.execute s = .execute t ∧ t.cwd = none := ⟨s, rfl, hcwd⟩
        have hbody : (Fragment.empty ++ Fragment.concat fragments) = Fragment.concat fragments := rfl
        rw [hnone, hbody, and_iff_right hexecute, not_and_or, not_not, not_not, or_comm]
      · have hstays : ¬ ∃ t, Settings.execute s = .execute t ∧ t.cwd = none := by
          rintro ⟨t, ht, hnone⟩
          obtain rfl := Settings.execute.inj ht
          exact hcwd hnone
        exact iff_of_true (.inr (Fragment.shows_append_iff.mpr (.inl hsome))) fun hblank =>
          hstays hblank.1

/-- An execute block that does something only where a directory is missing. -/
def buildOnce : Block :=
  ⟨none, [], [.command " ", .command "make\n", .echo ⟨.echo, "built", 0⟩ "built\nfi"], none⟩

theorem guardsBy_buildOnce :
    let settings := Settings.execute ⟨none, some "test -d build", none⟩
    settings.guardTest? ⟨.block .execute, "build", 0⟩ = some "test -d build" ∧
      '\n' ∉ Text.trimNewlines "test -d build".toList ∧
      ∃ fragment, (Child.block ⟨.block .execute, "build", 0⟩ settings buildOnce).render = .ok fragment ∧
        fragment.text = "if ! test -d build; then\n   \n  make\n  echo 'built\nfi'\nfi" ∧
        Shell.GuardsBy (Text.trimmed "test -d build") fragment.text := by
  intro settings
  have htest : settings.guardTest? ⟨.block .execute, "build", 0⟩ = some "test -d build" := rfl
  have hline : '\n' ∉ Text.trimNewlines "test -d build".toList := by decide
  have hrender : (Child.block ⟨.block .execute, "build", 0⟩ settings buildOnce).render = .ok _ := rfl
  have hshows : ¬ buildOnce.onlyCommands Text.isBlankText := by decide
  refine ⟨htest, hline, _, hrender, rfl, ?_⟩
  exact (guardsBy_iff htest hline hrender).2.mpr ⟨by decide, fun h => hshows h.2.1⟩

/-- A block with a newline at the end of its test. -/
def Program.tornTest : Program :=
  [.block .execute (.text "x") [.set (.notIf (.text "test -d /y\n")), .command (.text "y")]]

/-- A guarded block with a command of which nothing shows. -/
def Program.blankCommand : Program :=
  [.block .execute (.text "x") [.set (.creates (.text "/x")), .command (.text " ")]]

/-- The only resource of a recipe has a test of one line, but renders to something else than a guard. -/
def Program.BreaksGuard (program : Program) (test : String) : Prop :=
  ∃ block origin settings body fragment, program.evaluate 0 .empty = some block ∧
    block.children = [.block origin settings body] ∧ settings.guardTest? origin = some test ∧
    '\n' ∉ Text.trimNewlines test.toList ∧
    (Child.block origin settings body).render = .ok fragment ∧
    ¬ Shell.GuardsBy (Text.trimmed test) fragment.text

theorem not_guardsBy_tornTest_blankCommand :
    Program.tornTest.BreaksGuard "test -d /y\n" ∧ Program.blankCommand.BreaksGuard "test -e /x" := by
  constructor
  · refine ⟨_, _, _, _, _, rfl, rfl, rfl, by decide, rfl, ?_⟩
    rintro ⟨between, hlines, -⟩
    exact absurd (List.cons.inj hlines).1 (by decide)
  · refine ⟨_, _, _, _, _, rfl, rfl, rfl, by decide, rfl, ?_⟩
    rintro ⟨between, hlines, line, hmem, c, hc, hshows⟩
    have hbetween := (List.cons.inj hlines).2
    rw [show between = ["   ".toList] from (List.append_cancel_right hbetween).symm] at hmem
    obtain rfl := List.mem_singleton.mp hmem
    have hblanks : "   ".toList.all Text.isBlank = true := by decide
    exact absurd (List.all_eq_true.mp hblanks c hc) (by simp [hshows])

end SetupRecipe
