import SetupRecipe.Proofs.DeclaredActions
import SetupRecipe.Proofs.FragmentActions
import SetupRecipe.Proofs.Violations

/-!
# Scripts read back

The script of a tree reads back as what the tree declares: every command and message, every content
with its path and every guard with its test and its body, in the order of declaration. Messages,
contents and gems are arbitrary; the texts that become part of the script as they are have to be
plain.
-/

namespace SetupRecipe
open Shell

/-! ## Plain texts -/

/-- A letter, a digit or one of `/ . _ ~ -`. Every character beyond ASCII counts as a letter. -/
def isWordChar (c : Char) : Bool := c.isAlphanum || c ∈ ['/', '.', '_', '~', '-'] || 128 ≤ c.toNat

/-- Words with single blanks between them, the first of which is not one that the reader knows. -/
def PlainText (text : String) : Prop :=
  ∃ first words, text = String.intercalate " " (first :: words) ∧
    (∀ word ∈ first :: words, word ≠ "" ∧ word.toList.all isWordChar) ∧
    first ∉ ["if", "fi", "echo", "cat"]

lemma isWordChar_ne {c : Char} (h : isWordChar c) : c ≠ ' ' ∧ c ≠ '\n' ∧ c ≠ '\x27' ∧ c ≠ '"' := by
  refine ⟨?_, ?_, ?_, ?_⟩ <;> (rintro rfl; revert h; decide)

lemma isBare_of_word {word : String} (h : word.toList.all isWordChar) : IsBare word :=
  fun c hc => (isWordChar_ne (List.all_eq_true.mp h c hc)).2

lemma isBare_intercalate {words : List String} (h : ∀ word ∈ words, IsBare word) :
    IsBare (String.intercalate " " words) := by
  induction words with
  | nil => decide
  | cons word words ih =>
    rw [List.forall_mem_cons] at h
    cases words with
    | nil => simpa using h.1
    | cons next words =>
      rw [String.intercalate_cons_cons]
      exact (h.1.append (by decide)).append (ih h.2)

lemma PlainText.isBare {text : String} (h : PlainText text) : IsBare text := by
  obtain ⟨first, words, rfl, hwords, hfirst⟩ := h
  exact isBare_intercalate fun word hword => isBare_of_word (hwords word hword).2

lemma takeWhile_word {word : String} (h : ' ' ∉ word.toList) (rest : List Char) :
    (word.toList ++ rest).takeWhile (· ≠ ' ') = word.toList ++ rest.takeWhile (· ≠ ' ') := by
  apply List.takeWhile_append_of_pos
  intro c hc
  exact decide_eq_true fun hblank => h (hblank ▸ hc)

lemma PlainText.isCommand {text : String} (h : PlainText text) : IsCommand text := by
  refine ⟨h.isBare, ?_⟩
  obtain ⟨first, words, rfl, hwords, hfirst⟩ := h
  obtain ⟨hempty, hchars⟩ := hwords first List.mem_cons_self
  have hblank : ' ' ∉ first.toList :=
    fun hmem => (isWordChar_ne (List.all_eq_true.mp hchars ' ' hmem)).1 rfl
  have htake : (String.intercalate " " (first :: words)).toList.takeWhile (· ≠ ' ') =
      first.toList := by
    cases words with
    | nil => simpa using takeWhile_word hblank []
    | cons next words =>
      rw [String.intercalate_cons_cons, String.toList_append, String.toList_append,
        List.append_assoc, takeWhile_word hblank]
      simp
  have hnoOp : first ≠ ":" := by
    rintro rfl
    exact absurd hchars (by decide)
  rw [htake, String.ofList_toList]
  simp only [List.mem_cons, List.not_mem_nil, or_false, not_or] at hfirst
  simp [reservedWords, hempty, hnoOp, hfirst]

lemma takeWhile_append_of_blank {front : List Char} (h : ' ' ∈ front) (rest : List Char) :
    (front ++ rest).takeWhile (· ≠ ' ') = front.takeWhile (· ≠ ' ') := by
  induction front with
  | nil => exact absurd h List.not_mem_nil
  | cons c front ih =>
    by_cases hc : c = ' '
    · simp [hc]
    · have hfront : ' ' ∈ front := by simpa [Ne.symm hc] using h
      simpa [hc] using ih hfront

/-- What follows the first blank of a command does not matter. -/
lemma isCommand_append {front rest : String} (hfront : IsCommand front)
    (hblank : ' ' ∈ front.toList) (hrest : IsBare rest) : IsCommand (front ++ rest) where
  bare := hfront.bare.append hrest
  firstWord := by
    rw [String.toList_append, takeWhile_append_of_blank hblank]
    exact hfront.firstWord

/-! ## Raw texts -/

/-- The texts of a resource that become part of the script as they are. -/
def Settings.rawTexts (origin : Origin) : Settings → List String
  | .execute s => s.cwd.toList ++ s.notIf.toList ++ s.creates.toList
  | .file s => [origin.pathOr s.path]
  | .directory s => [origin.pathOr s.path]
  | .log s => s.path.toList ++ s.stdout.toList ++ s.stderr.toList
  | .gemfile s => [origin.pathOr s.path]

mutual

/-- The texts of a tree that become part of the script as they are. -/
def Block.rawTexts : Block → List String
  | ⟨_, _, children, _⟩ => rawTextsAll children

def Child.rawTexts : Child → List String
  | .command text => [text]
  | .echo _ _ => []
  | .haltOnFailedCommand _ => []
  | .block origin settings body => settings.rawTexts origin ++ body.rawTexts

def rawTextsAll : List Child → List String
  | [] => []
  | child :: children => child.rawTexts ++ rawTextsAll children

end

/-! ## Resources -/

lemma Shell.IsMode.isBare {digits : String} {mode : UInt32} (h : IsMode digits mode) : IsBare digits := by
  intro c hc
  have hdigit := h.octal.isDigit c hc
  refine ⟨?_, ?_, ?_⟩ <;> (rintro rfl; revert hdigit; decide)

lemma changeMode_readsAs {origin : Origin} {path : String} {mode : Option UInt32}
    {fragment : Fragment} (hpath : IsBare path) (h : changeMode origin path mode = .ok fragment) :
    ∃ actions, SetsMode path mode actions ∧ fragment.ReadsAs actions := by
  cases mode with
  | none =>
    obtain rfl := Except.ok.inj h
    exact ⟨[], .kept, .empty⟩
  | some mode =>
    cases hoctal : octalMode? mode with
    | none => simp [changeMode, hoctal] at h
    | some digits =>
      simp only [changeMode, hoctal, Except.ok.injEq] at h
      have hdigits := isMode_of_octalMode? hoctal
      have hbare : IsBare (digits ++ " " ++ path) := (hdigits.isBare.append (by decide)).append hpath
      have hassoc : "chmod " ++ digits ++ " " ++ path = "chmod " ++ (digits ++ " " ++ path) := by
        simp only [String.append_assoc]
      refine ⟨_, .changed hdigits, ?_⟩
      rw [← h, hassoc]
      exact .command (isCommand_append (by decide) (by decide) hbare)

section Resources

variable {origin : Origin} {declares : Bool} {before : Fragment} {inner : List Action}
  {fragment : Fragment}

lemma ExecuteSettings.render_readsAs {s : ExecuteSettings}
    (hraw : ∀ text ∈ (Settings.execute s).rawTexts origin, IsBare text)
    (hbefore : before.ReadsAs inner) (h : s.render (.ok before) = .ok fragment) :
    fragment.ReadsAs (s.actions inner) := by
  have hdirectory : s.changeDirectory.ReadsAs
      (s.cwd.toList.map fun path => .run ("cd " ++ path)) := by
    unfold changeDirectory
    cases hcwd : s.cwd with
    | none => exact .empty
    | some path =>
      have hpath : IsBare path := hraw path (by simp [Settings.rawTexts, hcwd])
      exact .command (isCommand_append (by decide) (by decide) hpath)
  have hcommands := hdirectory.append hbefore
  unfold actions
  unfold render guard? at h
  cases hnotIf : s.notIf with
  | some test =>
    have htest : IsBare test := hraw test (by simp [Settings.rawTexts, hnotIf])
    rw [hnotIf] at h
    obtain rfl := Except.ok.inj h
    exact .guarded htest hcommands
  | none =>
    cases hcreates : s.creates with
    | some path =>
      have hpath : IsBare path := hraw path (by simp [Settings.rawTexts, hcreates])
      rw [hnotIf, hcreates] at h
      obtain rfl := Except.ok.inj h
      exact .guarded (IsBare.append (by decide) hpath) hcommands
    | none =>
      rw [hnotIf, hcreates] at h
      obtain rfl := Except.ok.inj h
      exact hcommands

lemma FileSettings.create_readsAs {s : FileSettings} {content : Option String} {path : String}
    (hcontent : s.declaredContent origin declares = .ok content) (hpath : IsBare path)
    (h : create origin path content = .ok fragment) : fragment.ReadsAs [s.creation path] := by
  have hdeclared : s.content.or s.contentLines = content := by
    rcases declaredContent_eq_ok hcontent with ⟨hlines, rfl⟩ | ⟨hnone, rfl⟩
    · rw [hlines, Option.or_none]
    · rw [hnone, Option.none_or]
  unfold creation
  rw [hdeclared]
  cases content with
  | some content => exact .writeFile hpath h
  | none =>
    obtain rfl := Except.ok.inj h
    exact .command (isCommand_append (by decide) (by decide) hpath)

lemma FileSettings.render_readsAs {s : FileSettings}
    (hraw : ∀ text ∈ (Settings.file s).rawTexts origin, IsBare text)
    (hbefore : before.ReadsAs inner) (h : s.render origin declares (.ok before) = .ok fragment) :
    ∃ actions, (Settings.file s).Does origin inner actions ∧ fragment.ReadsAs actions := by
  have hpath : IsBare (origin.pathOr s.path) := hraw _ (by simp [Settings.rawTexts])
  obtain ⟨content, body, write, mode, hcontent, hbody, hwrite, hmode, rfl⟩ := render_eq_ok h
  obtain rfl := Except.ok.inj hbody
  obtain ⟨changes, hsets, hchanges⟩ := changeMode_readsAs hpath hmode
  exact ⟨_, .file s hsets, .guarded (IsBare.append (by decide) hpath)
    ((hbefore.append (create_readsAs hcontent hpath hwrite)).append hchanges)⟩

lemma DirectorySettings.render_readsAs {s : DirectorySettings}
    (hraw : ∀ text ∈ (Settings.directory s).rawTexts origin, IsBare text)
    (hbefore : before.ReadsAs inner) (h : s.render origin (.ok before) = .ok fragment) :
    ∃ actions, (Settings.directory s).Does origin inner actions ∧ fragment.ReadsAs actions := by
  have hpath : IsBare (origin.pathOr s.path) := hraw _ (by simp [Settings.rawTexts])
  obtain ⟨body, mode, hbody, hmode, rfl⟩ := render_eq_ok h
  obtain rfl := Except.ok.inj hbody
  have hcreate : IsCommand ("mkdir -p " ++ origin.pathOr s.path) :=
    isCommand_append (by decide) (by decide) hpath
  obtain ⟨changes, hsets, hchanges⟩ := changeMode_readsAs hpath hmode
  exact ⟨_, .directory s hsets, (hbefore.append (.command hcreate)).append hchanges⟩

lemma LogSettings.redirection_eq {s : LogSettings} {redirection : String}
    (h : s.redirection origin = .ok redirection) : redirection = "exec" ++ s.targets := by
  have hstdout (rest : String) : "exec 1>" ++ rest = "exec" ++ (" 1>" ++ rest) := by
    rw [← String.append_assoc]
    rfl
  have hstderr (rest : String) : "exec 2>" ++ rest = "exec" ++ (" 2>" ++ rest) := by
    rw [← String.append_assoc]
    rfl
  unfold LogSettings.redirection at h
  unfold targets
  cases hpath : s.path <;> cases hout : s.stdout <;> cases herr : s.stderr <;>
    simp_all [String.append_assoc]

lemma LogSettings.isCommand_targets {s : LogSettings}
    (hraw : ∀ text ∈ (Settings.log s).rawTexts origin, IsBare text) :
    IsCommand ("exec" ++ s.targets) := by
  have hexec {stream rest : String} (hstream : IsCommand ("exec" ++ stream))
      (hblank : ' ' ∈ ("exec" ++ stream).toList) (hrest : IsBare rest) :
      IsCommand ("exec" ++ (stream ++ rest)) := by
    rw [← String.append_assoc]
    exact isCommand_append hstream hblank hrest
  unfold targets
  cases hpath : s.path with
  | some path =>
    have hbare : IsBare path := hraw path (by simp [Settings.rawTexts, hpath])
    simp only [String.append_assoc]
    exact hexec (by decide) (by decide) (hbare.append (by decide))
  | none =>
    have hstderr (stderr : String) (h : s.stderr = some stderr) : IsBare stderr :=
      hraw stderr (by simp [Settings.rawTexts, h])
    cases hstdout : s.stdout with
    | some stdout =>
      have hbare : IsBare stdout := hraw stdout (by simp [Settings.rawTexts, hstdout])
      simp only [Option.map_some, Option.getD_some, String.append_assoc]
      apply hexec (by decide) (by decide) (hbare.append _)
      cases herr : s.stderr with
      | none => decide
      | some stderr => exact IsBare.append (by decide) (hstderr stderr herr)
    | none =>
      cases herr : s.stderr with
      | none => decide
      | some stderr =>
        simp only [Option.map_none, Option.getD_none, Option.map_some, Option.getD_some,
          String.empty_append]
        exact hexec (by decide) (by decide) (hstderr stderr herr)

lemma LogSettings.render_readsAs {s : LogSettings}
    (hraw : ∀ text ∈ (Settings.log s).rawTexts origin, IsBare text)
    (hbefore : before.ReadsAs inner) (h : s.render origin (.ok before) = .ok fragment) :
    fragment.ReadsAs (inner ++ [.run ("exec" ++ s.targets)]) := by
  obtain ⟨redirection, body, hredirection, hbody, rfl⟩ := render_eq_ok h
  obtain rfl := Except.ok.inj hbody
  obtain rfl := redirection_eq hredirection
  exact hbefore.append (.command (isCommand_targets hraw))

lemma isBare_manifestPath {directory : String} (h : IsBare directory) :
    IsBare (GemfileSettings.manifestPath directory) := by
  apply IsBare.append _ (by decide)
  intro c hc
  rw [String.toList_ofList, List.mem_reverse] at hc
  exact h c (List.mem_reverse.mp (List.dropWhile_subset _ hc))

lemma GemfileSettings.render_readsAs {s : GemfileSettings}
    (hraw : ∀ text ∈ (Settings.gemfile s).rawTexts origin, IsBare text)
    (hbefore : before.ReadsAs inner) (h : s.render origin declares (.ok before) = .ok fragment) :
    ∃ actions, (Settings.gemfile s).Does origin inner actions ∧ fragment.ReadsAs actions := by
  have hdirectory : IsBare (origin.pathOr s.path) := hraw _ (by simp [Settings.rawTexts])
  have hpath := isBare_manifestPath hdirectory
  obtain ⟨body, write, hbody, hwrite, rfl⟩ := render_eq_ok h
  obtain rfl := Except.ok.inj hbody
  have hdoes : (Settings.gemfile s).Does origin inner _ :=
    .gemfile s (Manifest.standsAt_iff.mpr rfl) (Manifest.describes_text s.source s.gems)
  exact ⟨_, hdoes, .guarded (IsBare.append (by decide) hpath)
    (hbefore.append (.writeFile hpath hwrite))⟩

/-- A resource does what it declares when everything in its block does. -/
lemma Settings.render_readsAs {settings : Settings}
    (hraw : ∀ text ∈ settings.rawTexts origin, IsBare text) (hbefore : before.ReadsAs inner)
    (h : settings.render origin declares (.ok before) = .ok fragment) :
    ∃ actions, settings.Does origin inner actions ∧ fragment.ReadsAs actions := by
  cases settings with
  | execute s => exact ⟨_, .execute s, s.render_readsAs hraw hbefore h⟩
  | file s => exact s.render_readsAs hraw hbefore h
  | directory s => exact s.render_readsAs hraw hbefore h
  | log s => exact ⟨_, .log s, s.render_readsAs hraw hbefore h⟩
  | gemfile s => exact s.render_readsAs hraw hbefore h

end Resources

/-! ## Trees -/

lemma childFragments_readAs {children : List Child} {fragments : List Fragment}
    (hread : ∀ child ∈ children, ∀ fragment, child.render = .ok fragment →
      ∃ actions, child.Declares actions ∧ fragment.ReadsAs actions)
    (h : childFragments children = .ok fragments) :
    ∃ found, List.Forall₂ Fragment.ReadsAs fragments found ∧ DeclareAll children found.flatten := by
  induction children generalizing fragments with
  | nil =>
    obtain rfl := Except.ok.inj h
    exact ⟨[], .nil, .nil⟩
  | cons child children ih =>
    rw [List.forall_mem_cons] at hread
    obtain ⟨fragment, hfragment, h⟩ := ok_of_bind_eq_ok h
    obtain ⟨more, hmore, h⟩ := ok_of_bind_eq_ok h
    obtain rfl := Except.ok.inj h
    obtain ⟨found, hfound, hdeclare⟩ := ih hread.2 hmore
    obtain ⟨actions, hdeclares, hreads⟩ := hread.1 fragment hfragment
    have hall := DeclareAll.cons hdeclares hdeclare
    by_cases hempty : fragment.isEmpty
    · obtain rfl := Fragment.isEmpty_iff.mp hempty
      rw [(hreads 0).found_eq_nil, List.nil_append] at hall
      rw [if_pos hempty]
      exact ⟨found, hfound, hall⟩
    · rw [if_neg hempty]
      exact ⟨actions :: found, .cons hreads hfound, hall⟩

lemma Block.fragments_readAs {block : Block} {fragments : List Fragment}
    (hread : ∀ child ∈ block.children, ∀ fragment, child.render = .ok fragment →
      ∃ actions, child.Declares actions ∧ fragment.ReadsAs actions)
    (h : block.fragments = .ok fragments) :
    ∃ found, List.Forall₂ Fragment.ReadsAs fragments found ∧ block.Declares found.flatten := by
  obtain ⟨owner, helpers, children, problem⟩ := block
  cases problem with
  | some error => exact nomatch h
  | none =>
    obtain ⟨found, hfound, hall⟩ := childFragments_readAs hread h
    exact ⟨found, hfound, .children hall⟩

lemma mem_rawTextsAll {children : List Child} {child : Child} (hchild : child ∈ children)
    {text : String} (h : text ∈ child.rawTexts) : text ∈ rawTextsAll children := by
  induction children with
  | nil => exact absurd hchild List.not_mem_nil
  | cons first children ih =>
    rw [rawTextsAll, List.mem_append]
    rcases List.mem_cons.mp hchild with rfl | hchild
    · exact Or.inl h
    · exact Or.inr (ih hchild)

lemma Block.mem_rawTexts {block : Block} {child : Child} (hchild : child ∈ block.children)
    {text : String} (h : text ∈ child.rawTexts) : text ∈ block.rawTexts := by
  obtain ⟨owner, helpers, children, problem⟩ := block
  exact mem_rawTextsAll hchild h

mutual

/-- A tree that reads as what it declares: its commands read as commands, and its other raw texts as
they stand. -/
def Block.Readable : Block → Prop
  | ⟨_, _, children, _⟩ => ReadableAll children

def Child.Readable : Child → Prop
  | .command text => IsCommand text
  | .echo _ _ => True
  | .haltOnFailedCommand _ => True
  | .block origin settings body => (∀ text ∈ settings.rawTexts origin, IsBare text) ∧ body.Readable

def ReadableAll : List Child → Prop
  | [] => True
  | child :: children => child.Readable ∧ ReadableAll children

end

lemma readableAll_iff {children : List Child} :
    ReadableAll children ↔ ∀ child ∈ children, child.Readable := by
  induction children with
  | nil => simp [ReadableAll]
  | cons child children ih => simp [ReadableAll, ih]

lemma Block.readable_iff {block : Block} :
    block.Readable ↔ ∀ child ∈ block.children, child.Readable := by
  obtain ⟨owner, helpers, children, problem⟩ := block
  exact readableAll_iff

lemma Child.render_readsAs (child : Child) (hreadable : child.Readable) {fragment : Fragment}
    (h : child.render = .ok fragment) :
    ∃ actions, child.Declares actions ∧ fragment.ReadsAs actions := by
  induction child using Child.induction generalizing fragment with
  | command text =>
    obtain rfl := Except.ok.inj h
    exact ⟨_, .command text, .command hreadable⟩
  | echo origin message =>
    obtain rfl := Except.ok.inj h
    exact ⟨_, .echo origin message, .echo message⟩
  | haltOnFailedCommand origin =>
    obtain rfl := Except.ok.inj h
    exact ⟨_, .haltOnFailedCommand origin, .command (by decide)⟩
  | block origin settings body ih =>
    obtain ⟨hraw, hbody⟩ := hreadable
    obtain ⟨fragments, hfragments, h⟩ := render_block_eq_ok h
    obtain ⟨found, hfound, hinside⟩ := Block.fragments_readAs (fun child hchild fragment =>
      ih child hchild (Block.readable_iff.mp hbody child hchild)) hfragments
    obtain ⟨actions, hdoes, hreads⟩ := Settings.render_readsAs hraw (.concat hfound) h
    exact ⟨actions, .block hinside hdoes, hreads⟩

lemma Child.readable_of_plain (child : Child) (hplain : ∀ text ∈ child.rawTexts, PlainText text) :
    child.Readable := by
  induction child using Child.induction with
  | command text => exact (hplain text (by simp [rawTexts])).isCommand
  | echo origin message => trivial
  | haltOnFailedCommand origin => trivial
  | block origin settings body ih =>
    refine ⟨fun text htext => (hplain text (List.mem_append_left _ htext)).isBare, ?_⟩
    rw [Block.readable_iff]
    intro child hchild
    exact ih child hchild fun text htext =>
      hplain text (List.mem_append_right _ (Block.mem_rawTexts hchild htext))

lemma Block.readable_of_plain {root : Block} (hplain : ∀ text ∈ root.rawTexts, PlainText text) :
    root.Readable := by
  rw [readable_iff]
  intro child hchild
  exact child.readable_of_plain fun text htext => hplain text (mem_rawTexts hchild htext)

/-- A script is read as actions that its tree declares whenever the tree is readable. -/
lemma Block.readScript?_of_readable {root : Block} {script : String} (hreadable : root.Readable)
    (h : root.script = .ok script) :
    ∃ actions, root.Declares actions ∧ readScript? script = some actions := by
  obtain ⟨fragments, hfragments, rfl⟩ := ok_of_map_eq_ok h
  obtain ⟨found, hfound, hdeclares⟩ := Block.fragments_readAs (fun child hchild fragment =>
    child.render_readsAs (readable_iff.mp hreadable child hchild)) hfragments
  exact ⟨found.flatten, hdeclares, Fragment.readScript?_joinScript hfound⟩

/-- The script of a tree reads back as what the tree declares, and as nothing else. -/
theorem readScript?_script {root : Block} {script : String}
    (hplain : ∀ text ∈ root.rawTexts, PlainText text) (h : root.script = .ok script) :
    ∃ actions, readScript? script = some actions ∧
      ∀ others, root.Declares others ↔ others = actions := by
  obtain ⟨actions, hdeclares, hread⟩ :=
    Block.readScript?_of_readable (Block.readable_of_plain hplain) h
  refine ⟨actions, hread, fun others => ⟨fun hothers => hothers.unique hdeclares, ?_⟩⟩
  rintro rfl
  exact hdeclares

def homeGems : List Gem := [⟨"rake", some "13.0"⟩, ⟨"rack", none⟩]

def homeManifest : String := "source \"https://rubygems.org\"\n\ngem \"rack\"\ngem \"rake\", \"13.0\"\n"

/-- A file whose name and content look like code. -/
def fiFile : Child :=
  .block ⟨.block .file, "bin/fi", 0⟩ (.file ⟨none, some "if\n  fi\n'", none, some 0o755⟩)
    ⟨none, [], [.echo ⟨.echo, "", 0⟩ "It's\nfi\n"], none⟩

def homeGemfile : Child :=
  .block ⟨.block .gemfile, "/home/ada//", 1⟩
    (.gemfile ⟨none, homeGems, some "https://rubygems.org"⟩) ⟨none, [], [], none⟩

def setUpHome : Block :=
  ⟨none, [], [
    .block ⟨.block .execute, "set up", 0⟩ (.execute ⟨some "/home/ada", some "test -d bin", none⟩)
      ⟨none, [], [.command "mkdir -p bin", fiFile, homeGemfile], none⟩], none⟩

lemma describes_homeManifest :
    Manifest.Describes (some "https://rubygems.org") homeGems homeManifest := by
  have hfirst : IsLeast (Manifest.roomFor homeGems) 12 := by
    constructor
    · change ∀ gem ∈ homeGems, gem.version.isSome →
        ("gem \"" ++ gem.name ++ "\",").utf8ByteSize < 12
      decide
    · exact fun column hcolumn => hcolumn ⟨"rake", some "13.0"⟩ List.mem_cons_self rfl
  have hdeclared (name : String) :
      [⟨"rack", none⟩, ⟨"rake", some "13.0"⟩].filter (fun gem : Gem => gem.name = name) =
        homeGems.filter fun gem => gem.name = name := by
    by_cases hrack : "rack" = name
    · subst hrack
      decide
    · simp [homeGems, List.filter_cons, hrack]
  have hlists : List.Forall₂ (Manifest.Lists 12) [⟨"rack", none⟩, ⟨"rake", some "13.0"⟩]
      ["gem \"rack\"\n", "gem \"rake\", \"13.0\"\n"] :=
    .cons (.unversioned "rack") (.cons (.versioned "rake" "13.0" Nat.one_pos (by decide)) .nil)
  exact .lines hfirst (by decide) hdeclared hlists

lemma exists_script_setUpHome : ∃ script, setUpHome.script = .ok script := by
  apply Block.exists_script_of_walk_eq_nil
  have hwalk : setUpHome.walk = ((reportTagLine ⟨.block .gemfile, "/home/ada//", 1⟩
      (some (Manifest.text (some "https://rubygems.org") homeGems)) ++ []) ++ []) ++ [] := rfl
  rw [hwalk, (Manifest.describes_text _ _).unique describes_homeManifest]
  rfl

lemma fiFile_declares :
    fiFile.Declares [.guarded "test -e bin/fi" [
      .print "It's\nfi\n", .write "bin/fi" "if\n  fi\n'\n", .run "chmod 0755 bin/fi"]] := by
  have hecho : DeclareAll [.echo ⟨.echo, "", 0⟩ "It's\nfi\n"] _ := .cons (.echo _ _) .nil
  have hoctal : ∀ c ∈ ['0', '7', '5', '5'], '0' ≤ c ∧ c ≤ '7' := by simp
  have hmode : IsMode "0755" 0o755 := ⟨rfl, by decide, hoctal, rfl⟩
  exact .block (.children hecho) (.file _ (.changed hmode))

lemma homeGemfile_declares :
    homeGemfile.Declares
      [.guarded "test -e /home/ada/Gemfile" [.write "/home/ada/Gemfile" homeManifest]] := by
  have hplace : Manifest.StandsAt "/home/ada//" "/home/ada/Gemfile" :=
    ⟨"/home/ada", 2, rfl, by decide, rfl⟩
  have hdoes := @Settings.Does.gemfile ⟨.block .gemfile, "/home/ada//", 1⟩ []
    ⟨none, homeGems, some "https://rubygems.org"⟩ _ _ hplace describes_homeManifest
  exact .block (.children .nil) hdoes

theorem readScript?_script_setUpHome :
    (∀ text ∈ setUpHome.rawTexts, PlainText text) ∧
      ∃ script, setUpHome.script = .ok script ∧ readScript? script = some [
        .guarded "test -d bin" [
          .run "cd /home/ada",
          .run "mkdir -p bin",
          .guarded "test -e bin/fi" [
            .print "It's\nfi\n", .write "bin/fi" "if\n  fi\n'\n", .run "chmod 0755 bin/fi"],
          .guarded "test -e /home/ada/Gemfile" [.write "/home/ada/Gemfile" homeManifest]]] := by
  have hplain : ∀ text ∈ setUpHome.rawTexts, PlainText text := by
    have hraw : setUpHome.rawTexts =
        ["/home/ada", "test -d bin", "mkdir -p bin", "bin/fi", "/home/ada//"] := rfl
    rw [hraw]
    simp only [List.forall_mem_cons, List.not_mem_nil, false_implies, implies_true, and_true]
    exact ⟨⟨"/home/ada", [], by decide⟩, ⟨"test", ["-d", "bin"], by decide⟩,
      ⟨"mkdir", ["-p", "bin"], by decide⟩, ⟨"bin/fi", [], by decide⟩, ⟨"/home/ada//", [], by decide⟩⟩
  obtain ⟨script, hscript⟩ := exists_script_setUpHome
  obtain ⟨actions, hread, hdeclares⟩ := readScript?_script hplain hscript
  have hbody : DeclareAll [.command "mkdir -p bin", fiFile, homeGemfile] _ :=
    .cons (.command _) (.cons fiFile_declares (.cons homeGemfile_declares .nil))
  have hroot : DeclareAll setUpHome.children _ := .cons (.block (.children hbody) (.execute _)) .nil
  refine ⟨hplain, script, hscript, ?_⟩
  rw [hread, Option.some.injEq, eq_comm, ← hdeclares]
  exact .children hroot

end SetupRecipe
