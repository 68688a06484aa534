import SetupRecipe.Proofs.AttributeOrder
import SetupRecipe.Proofs.CodeLines
import SetupRecipe.Proofs.ReadBack
import SetupRecipe.Text.Blank

/-!
# Visible code

Every resource renders to code that shows on the page, except for execute blocks that have nothing but
commands. Such a block renders to no lines if its commands are only newlines, and to blank lines if
they are only blanks.
-/

namespace SetupRecipe

open Shell (Fragment Line)

namespace Text

/-- Whether a text is a run of newlines. -/
def isNewlines (text : String) : Bool := text.toList.all (· = '\n')

/-- Whether nothing of a text shows. -/
def isBlankText (text : String) : Bool := text.toList.all isBlank

end Text

namespace Shell

/-- A line of which nothing shows. -/
def Line.IsBlank (line : Line) : Prop := ∀ c ∈ line.text.toList, Text.isBlank c = true

namespace Fragment

/-- A fragment with a character that shows. -/
def Shows (fragment : Fragment) : Prop :=
  ∃ line ∈ fragment.lines, ∃ c ∈ line.text.toList, Text.isBlank c = false

variable {a b : Fragment}

lemma not_shows_iff : ¬ a.Shows ↔ ∀ line ∈ a.lines, line.IsBlank := by
  simp [Shows, Line.IsBlank]

lemma shows_append_iff : (a ++ b).Shows ↔ a.Shows ∨ b.Shows := by
  simp only [Shows, lines_append, List.mem_append, or_and_right, exists_or]

/-- A character of code that shows is on one of its lines. -/
lemma shows_ofCode_iff {text : String} :
    (ofCode text).Shows ↔ ∃ c ∈ text.toList, Text.isBlank c = false := by
  have hkept {c : Char} (hc : Text.isBlank c = false) :
      (∃ line ∈ Text.codeLines text.toList, c ∈ line) ↔ c ∈ text.toList := by
    apply Text.mem_codeLines_iff
    · rintro rfl
      exact absurd hc (by decide)
    · rintro rfl
      exact absurd hc (by decide)
  constructor
  · rintro ⟨line, hline, c, hmem, hc⟩
    obtain ⟨chars, hchars, rfl⟩ := List.mem_map.mp hline
    rw [Line.text, String.toList_ofList] at hmem
    exact ⟨c, (hkept hc).mp ⟨chars, hchars, hmem⟩, hc⟩
  · rintro ⟨c, hmem, hc⟩
    obtain ⟨chars, hchars, hin⟩ := (hkept hc).mpr hmem
    refine ⟨.code (String.ofList chars), List.mem_map.mpr ⟨chars, hchars, rfl⟩, c, ?_, hc⟩
    rwa [Line.text, String.toList_ofList]

/-- Code shows if the part of it that an author does not choose does. -/
lemma shows_ofCode_append {front : String} (h : ∃ c ∈ front.toList, Text.isBlank c = false)
    (rest : String) : (ofCode (front ++ rest)).Shows := by
  obtain ⟨c, hmem, hc⟩ := h
  rw [shows_ofCode_iff, String.toList_append]
  exact ⟨c, List.mem_append_left _ hmem, hc⟩

lemma shows_indented_iff : a.indented.Shows ↔ a.Shows := by
  have hline (line : Line) : (∃ c ∈ line.indent.text.toList, Text.isBlank c = false) ↔
      ∃ c ∈ line.text.toList, Text.isBlank c = false := by
    cases line with
    | literal text => rfl
    | code text =>
      by_cases htext : text = ""
      · simp [Line.indent, htext]
      · have hindent : "  ".toList = [' ', ' '] := by decide
        have hblank : Text.isBlank ' ' = true := by decide
        simp [Line.indent, Line.text, htext, hindent, hblank]
  simp only [Shows, indented, List.mem_map, exists_exists_and_eq_and, hline]

lemma shows_noOp : noOp.Shows := ⟨.code ":", List.mem_cons_self, ':', by decide, by decide⟩

lemma shows_guarded (test : String) (body : Fragment) : (guarded test body).Shows := by
  rw [guarded, shows_append_iff]
  right
  rw [shows_ofCode_iff]
  exact ⟨'f', by decide, by decide⟩

lemma lines_concat (fragments : List Fragment) :
    (concat fragments).lines = fragments.flatMap Fragment.lines := by
  induction fragments with
  | nil => rfl
  | cons fragment fragments ih =>
    rw [concat, List.foldr_cons, lines_append, List.flatMap_cons, ← ih]
    rfl

lemma lines_concat_eq_nil_iff {fragments : List Fragment}
    (h : ∀ fragment ∈ fragments, fragment.lines ≠ []) :
    (concat fragments).lines = [] ↔ fragments = [] := by
  rw [lines_concat, List.flatMap_eq_nil_iff]
  constructor
  · exact fun hall => List.eq_nil_iff_forall_not_mem.mpr fun fragment hmem =>
      h fragment hmem (hall fragment hmem)
  · rintro rfl
    simp

end Fragment

end Shell

/-! ## Resources -/

/-- Fragments of declarations, of which the empty ones are left out. -/
lemma childFragments_eq_ok {children : List Child} {fragments : List Fragment}
    (h : childFragments children = .ok fragments) :
    ∃ all, List.Forall₂ (fun child fragment => child.render = .ok fragment) children all ∧
      fragments = all.filter (!·.isEmpty) := by
  induction children generalizing fragments with
  | nil =>
    obtain rfl := Except.ok.inj h
    exact ⟨[], .nil, rfl⟩
  | cons child children ih =>
    obtain ⟨fragment, hfragment, h⟩ := ok_of_bind_eq_ok h
    obtain ⟨more, hmore, h⟩ := ok_of_bind_eq_ok h
    obtain rfl := Except.ok.inj h
    obtain ⟨all, hall, rfl⟩ := ih hmore
    refine ⟨fragment :: all, .cons hfragment hall, ?_⟩
    by_cases hempty : fragment.isEmpty
    · simp [hempty]
    · simp [hempty]

lemma Block.fragments_eq_ok {block : Block} {fragments : List Fragment}
    (h : block.fragments = .ok fragments) :
    ∃ all, List.Forall₂ (fun child fragment => child.render = .ok fragment) block.children all ∧
      fragments = all.filter (!·.isEmpty) := by
  obtain ⟨owner, helpers, children, problem⟩ := block
  cases problem with
  | some error => exact nomatch h
  | none => exact childFragments_eq_ok h

section Resources

variable {origin : Origin} {declares : Bool} {body fragment : Fragment}

lemma writeFile_shows {path content : String} (h : writeFile origin path content = .ok fragment) :
    fragment.Shows := by
  unfold writeFile at h
  cases hdoc : Shell.Heredoc.ofContent? content with
  | none => simp [hdoc] at h
  | some doc =>
    rw [hdoc] at h
    obtain rfl := Except.ok.inj h
    rw [Fragment.shows_append_iff, String.append_assoc, String.append_assoc]
    exact .inl (Fragment.shows_ofCode_append ⟨'c', by decide, by decide⟩ _)

lemma FileSettings.create_shows {path : String} {content : Option String}
    (h : create origin path content = .ok fragment) : fragment.Shows := by
  cases content with
  | some content => exact writeFile_shows h
  | none =>
    obtain rfl := Except.ok.inj h
    exact Fragment.shows_ofCode_append ⟨'t', by decide, by decide⟩ path

lemma LogSettings.redirection_shows {s : LogSettings} {redirection : String}
    (h : s.redirection origin = .ok redirection) : (Fragment.ofCode redirection).Shows := by
  rw [LogSettings.redirection_eq h]
  exact Fragment.shows_ofCode_append ⟨'e', by decide, by decide⟩ _

/-- A resource with code around that of its block. -/
lemma Settings.render_shows {settings : Settings} (hplain : settings ≠ .execute ⟨none, none, none⟩)
    (h : settings.render origin declares (.ok body) = .ok fragment) : fragment.Shows := by
  cases settings with
  | execute s =>
    obtain rfl := Except.ok.inj ((s.render_ok body).symm.trans h)
    unfold ExecuteSettings.wrap
    cases hguard : s.guard? with
    | some test => exact Fragment.shows_guarded test _
    | none =>
      rw [Fragment.shows_append_iff]
      left
      obtain ⟨cwd, notIf, creates⟩ := s
      obtain ⟨rfl, hcreates⟩ := Option.or_eq_none_iff.mp hguard
      obtain rfl := Option.map_eq_none_iff.mp hcreates
      cases cwd with
      | none => exact absurd rfl hplain
      | some path => exact Fragment.shows_ofCode_append ⟨'c', by decide, by decide⟩ path
  | file s =>
    obtain ⟨content, before, write, mode, -, -, -, -, rfl⟩ := s.render_eq_ok h
    exact Fragment.shows_guarded _ _
  | directory s =>
    obtain ⟨before, mode, -, -, rfl⟩ := s.render_eq_ok h
    rw [Fragment.shows_append_iff, Fragment.shows_append_iff]
    exact .inl (.inr (Fragment.shows_ofCode_append ⟨'m', by decide, by decide⟩ _))
  | log s =>
    obtain ⟨redirection, before, hredirection, -, rfl⟩ := s.render_eq_ok h
    rw [Fragment.shows_append_iff]
    exact .inr (LogSettings.redirection_shows hredirection)
  | gemfile s =>
    obtain ⟨before, write, -, -, rfl⟩ := s.render_eq_ok h
    exact Fragment.shows_guarded _ _

end Resources

/-! ## Blocks of commands -/

mutual

/-- Whether a block has nothing but commands that pass a test, by itself or in execute blocks that do
not change the directory and have no guard. -/
def Block.onlyCommands (test : String → Bool) : Block → Bool
  | ⟨_, _, children, _⟩ => onlyCommandsAll test children

def Child.onlyCommands (test : String → Bool) : Child → Bool
  | .command text => test text
  | .echo _ _ => false
  | .haltOnFailedCommand _ => false
  | .block _ settings body => settings = .execute ⟨none, none, none⟩ && body.onlyCommands test

def onlyCommandsAll (test : String → Bool) : List Child → Bool
  | [] => true
  | child :: children => child.onlyCommands test && onlyCommandsAll test children

end

lemma Block.onlyCommands_iff_children {test : String → Bool} {block : Block} :
    block.onlyCommands test ↔ ∀ child ∈ block.children, child.onlyCommands test := by
  obtain ⟨owner, helpers, children, problem⟩ := block
  rw [onlyCommands]
  induction children with
  | nil => simp [onlyCommandsAll]
  | cons child children ih => simp [onlyCommandsAll, ih]

section Commands

variable {test : String → Bool} {P : Line → Prop}

lemma forall_lines_concat_iff {children : List Child} {all : List Fragment}
    (hall : List.Forall₂ (fun child fragment => child.render = .ok fragment) children all)
    (h : ∀ child ∈ children, ∀ fragment, child.render = .ok fragment →
      (child.onlyCommands test ↔ ∀ line ∈ fragment.lines, P line)) :
    (∀ child ∈ children, child.onlyCommands test) ↔
      ∀ line ∈ (Fragment.concat (all.filter (!·.isEmpty))).lines, P line := by
  induction hall with
  | nil => simp [Fragment.lines_concat]
  | @cons child fragment children all hfragment hall ih =>
    rw [List.forall_mem_cons] at h
    rw [List.forall_mem_cons, h.1 fragment hfragment, ih h.2, Fragment.lines_concat,
      Fragment.lines_concat, List.filter_cons]
    by_cases hempty : fragment.isEmpty
    · obtain rfl := Fragment.isEmpty_iff.mp hempty
      simp [Fragment.empty, Fragment.isEmpty]
    · simp only [hempty, Bool.not_false, if_true, List.flatMap_cons, List.forall_mem_append]

/-- A property of lines that no line has on which something shows holds of all lines of a declaration
exactly if it has nothing but commands whose lines have the property. -/
lemma Child.onlyCommands_iff
    (hcommand : ∀ text, test text ↔ ∀ line ∈ (Fragment.ofCode text).lines, P line)
    (hblank : ∀ line, P line → line.IsBlank) (child : Child) {fragment : Fragment}
    (h : child.render = .ok fragment) :
    child.onlyCommands test ↔ ∀ line ∈ fragment.lines, P line := by
  have hshows {fragment : Fragment} (hfragment : fragment.Shows) :
      false = true ↔ ∀ line ∈ fragment.lines, P line := by
    constructor
    · exact fun h => nomatch h
    · intro hall
      exact absurd hfragment (Fragment.not_shows_iff.mpr fun line hline => hblank line (hall line hline))
  induction child using Child.induction generalizing fragment with
  | command text =>
    obtain rfl := Except.ok.inj h
    exact hcommand text
  | echo origin message =>
    obtain rfl := Except.ok.inj h
    exact hshows ⟨_, List.mem_cons_self, 'e', by simp [Line.text], by decide⟩
  | haltOnFailedCommand origin =>
    obtain rfl := Except.ok.inj h
    exact hshows (Fragment.shows_ofCode_iff.mpr ⟨'s', by decide, by decide⟩)
  | block origin settings body ih =>
    obtain ⟨fragments, hfragments, h⟩ := Child.render_block_eq_ok h
    rw [Child.onlyCommands]
    by_cases hplain : settings = .execute ⟨none, none, none⟩
    · obtain ⟨all, hall, rfl⟩ := Block.fragments_eq_ok hfragments
      subst hplain
      obtain rfl := Except.ok.inj ((ExecuteSettings.render_ok ⟨none, none, none⟩ _).symm.trans h)
      rw [decide_eq_true rfl, Bool.true_and, Block.onlyCommands_iff_children,
        forall_lines_concat_iff hall fun child hchild fragment hrender => ih child hchild hrender]
      rfl
    · rw [decide_eq_false hplain, Bool.false_and]
      exact hshows (Settings.render_shows hplain h)

lemma Block.onlyCommands_iff
    (hcommand : ∀ text, test text ↔ ∀ line ∈ (Fragment.ofCode text).lines, P line)
    (hblank : ∀ line, P line → line.IsBlank) {block : Block} {fragments : List Fragment}
    (h : block.fragments = .ok fragments) :
    block.onlyCommands test ↔ ∀ line ∈ (Fragment.concat fragments).lines, P line := by
  obtain ⟨all, hall, rfl⟩ := fragments_eq_ok h
  rw [onlyCommands_iff_children]
  exact forall_lines_concat_iff hall fun child _ _ => child.onlyCommands_iff hcommand hblank

end Commands

lemma isNewlines_iff (text : String) :
    Text.isNewlines text ↔ ∀ line ∈ (Fragment.ofCode text).lines, False := by
  have hlines : Text.codeLines text.toList = [] ↔ ∀ c ∈ text.toList, c = '\n' :=
    Text.codeLines_eq_nil_iff
  simp only [Text.isNewlines, List.all_eq_true, decide_eq_true_eq, ← hlines, Fragment.ofCode]
  simp [List.eq_nil_iff_forall_not_mem]

lemma isBlankText_iff (text : String) :
    Text.isBlankText text ↔ ∀ line ∈ (Fragment.ofCode text).lines, line.IsBlank := by
  rw [← Fragment.not_shows_iff, Fragment.shows_ofCode_iff]
  simp [Text.isBlankText]

/-- What renders to no lines has only commands that are newlines. -/
lemma Block.onlyNewlines_iff {block : Block} {fragments : List Fragment}
    (h : block.fragments = .ok fragments) :
    block.onlyCommands Text.isNewlines ↔ (Fragment.concat fragments).lines = [] := by
  rw [onlyCommands_iff isNewlines_iff (fun _ h => nomatch h) h]
  exact List.eq_nil_iff_forall_not_mem.symm

/-- What renders to blank lines has only commands that are blanks. -/
lemma Block.onlyBlanks_iff {block : Block} {fragments : List Fragment}
    (h : block.fragments = .ok fragments) :
    block.onlyCommands Text.isBlankText ↔ ¬ (Fragment.concat fragments).Shows := by
  rw [onlyCommands_iff isBlankText_iff (fun _ h => h) h, Fragment.not_shows_iff]

end SetupRecipe
