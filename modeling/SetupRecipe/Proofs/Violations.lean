import SetupRecipe.Proofs.Heredocs
import SetupRecipe.Proofs.Trees

/-!
# Violations in declaration trees

A tree has a script exactly when nothing in it is violated, wherever in the tree that may be. The
error of a tree that has no script is the first violation on a walk through the tree: the problem
of a block comes before the children of the block, what is missing from a resource or excludes each
other comes before the block of the resource, and contents and permissions come after it.
-/

namespace SetupRecipe
open Shell (Fragment)

/-- What can be wrong with a resource; `declares` says whether its block declares a resource other
than an echo. -/
inductive Settings.Violation (origin : Origin) (declares : Prop) :
    Settings → CompileError → Prop where
  | filePath {s : FileSettings} (path : s.path = none) (label : origin.label = "") :
    Violation origin declares (.file s) (.missingAttribute origin "path")
  | directoryPath {s : DirectorySettings} (path : s.path = none) (label : origin.label = "") :
    Violation origin declares (.directory s) (.missingAttribute origin "path")
  | gemfilePath {s : GemfileSettings} (path : s.path = none) (label : origin.label = "") :
    Violation origin declares (.gemfile s) (.missingAttribute origin "path")
  | bothContents {s : FileSettings} (content : s.content.isSome) (lines : s.contentLines.isSome) :
    Violation origin declares (.file s) (.conflict origin "content" "content_with")
  | contentBesideBlock {s : FileSettings} (content : s.content.isSome) (block : declares) :
    Violation origin declares (.file s) (.conflict origin "content" nestedDeclarations)
  | contentLinesBesideBlock {s : FileSettings} (lines : s.contentLines.isSome) (block : declares) :
    Violation origin declares (.file s) (.conflict origin "content_with" nestedDeclarations)
  | gemsBesideBlock {s : GemfileSettings} (gems : s.gems ≠ []) (block : declares) :
    Violation origin declares (.gemfile s) (.conflict origin "gem" nestedDeclarations)
  | pathAndStdout {s : LogSettings} (path : s.path.isSome) (stdout : s.stdout.isSome) :
    Violation origin declares (.log s) (.conflict origin "path" "stdout")
  | pathAndStderr {s : LogSettings} (path : s.path.isSome) (stderr : s.stderr.isSome) :
    Violation origin declares (.log s) (.conflict origin "path" "stderr")
  | noTarget {s : LogSettings} (path : s.path = none) (stdout : s.stdout = none)
    (stderr : s.stderr = none) :
    Violation origin declares (.log s) (.missingAttribute origin "path")
  | contentTag {s : FileSettings} {content : String} (declared : s.content = some content)
    (tag : HasTagLine content) : Violation origin declares (.file s) (.contentCollision origin)
  | contentLinesTag {s : FileSettings} {content : String} (declared : s.contentLines = some content)
    (tag : HasTagLine content) : Violation origin declares (.file s) (.contentCollision origin)
  | manifestTag {s : GemfileSettings} (tag : HasTagLine (Manifest.text s.source s.gems)) :
    Violation origin declares (.gemfile s) (.contentCollision origin)
  | fileMode {s : FileSettings} {mode : UInt32} (declared : s.mode = some mode)
    (large : Shell.maxMode < mode) :
    Violation origin declares (.file s) (.invalidMode origin mode)
  | directoryMode {s : DirectorySettings} {mode : UInt32} (declared : s.mode = some mode)
    (large : Shell.maxMode < mode) :
    Violation origin declares (.directory s) (.invalidMode origin mode)

/-- A violation anywhere in a tree. -/
inductive Block.Violation : Block → CompileError → Prop where
  | problem {block : Block} {error : CompileError} (h : block.problem = some error) :
    Violation block error
  | resource {block body : Block} {origin : Origin} {settings : Settings} {error : CompileError}
    (child : .block origin settings body ∈ block.children)
    (h : settings.Violation origin (body.hasDeclarations = true) error) : Violation block error
  | nested {block body : Block} {origin : Origin} {settings : Settings} {error : CompileError}
    (child : .block origin settings body ∈ block.children) (h : Violation body error) :
    Violation block error

/-! ## The walk -/

/-- The error, if there is a reason for it. -/
def reportIf (p : Prop) [Decidable p] (error : CompileError) : List CompileError :=
  if p then [error] else []

def reportMissingPath (origin : Origin) (path : Option String) : List CompileError :=
  reportIf (path = none ∧ origin.label = "") (.missingAttribute origin "path")

def reportTagLine (origin : Origin) (content : Option String) : List CompileError :=
  reportIf (∃ text ∈ content, HasTagLine text) (.contentCollision origin)

def reportMode (origin : Origin) : Option UInt32 → List CompileError
  | some mode => reportIf (Shell.maxMode < mode) (.invalidMode origin mode)
  | none => []

/-- The contents of a file exclude each other, and declarations other than echoes. -/
def FileSettings.reportContents (s : FileSettings) (origin : Origin) (declares : Bool) :
    List CompileError :=
  reportIf (s.content.isSome ∧ s.contentLines.isSome) (.conflict origin "content" "content_with")
    ++ reportIf (s.content.isSome ∧ declares) (.conflict origin "content" nestedDeclarations)
    ++ reportIf (s.contentLines.isSome ∧ declares)
      (.conflict origin "content_with" nestedDeclarations)

def FileSettings.reportTagLines (s : FileSettings) (origin : Origin) : List CompileError :=
  reportTagLine origin s.content ++ reportTagLine origin s.contentLines

/-- A redirection has a target, and one path excludes a path for each stream. -/
def LogSettings.reportTargets (s : LogSettings) (origin : Origin) : List CompileError :=
  reportIf (s.path = none ∧ s.stdout = none ∧ s.stderr = none) (.missingAttribute origin "path")
    ++ reportIf (s.path.isSome ∧ s.stdout.isSome) (.conflict origin "path" "stdout")
    ++ reportIf (s.path.isSome ∧ s.stderr.isSome) (.conflict origin "path" "stderr")

/-- The violations of a resource that come before those in its block. -/
def Settings.violationsBefore (origin : Origin) (declares : Bool) : Settings → List CompileError
  | .execute _ => []
  | .file s => reportMissingPath origin s.path ++ s.reportContents origin declares
  | .directory s => reportMissingPath origin s.path
  | .log s => s.reportTargets origin
  | .gemfile s =>
    reportMissingPath origin s.path
      ++ reportIf (s.gems ≠ [] ∧ declares) (.conflict origin "gem" nestedDeclarations)

/-- The violations of a resource that come after those in its block. -/
def Settings.violationsAfter (origin : Origin) : Settings → List CompileError
  | .execute _ => []
  | .file s => s.reportTagLines origin ++ reportMode origin s.mode
  | .directory s => reportMode origin s.mode
  | .log _ => []
  | .gemfile s => reportTagLine origin (some (Manifest.text s.source s.gems))

mutual

/-- The violations of a tree in the order of a walk through it. -/
def Block.walk : Block → List CompileError
  | ⟨_, _, children, problem⟩ => problem.toList ++ walkAll children

def Child.walk : Child → List CompileError
  | .command _ => []
  | .echo _ _ => []
  | .haltOnFailedCommand _ => []
  | .block origin settings body =>
    settings.violationsBefore origin body.hasDeclarations ++ body.walk
      ++ settings.violationsAfter origin

def walkAll : List Child → List CompileError
  | [] => []
  | child :: children => child.walk ++ walkAll children

end

/-! ## Computations that fail with the first of some errors -/

/-- A computation that fails with the first of some errors, and has a result if there are none. -/
def FailsFirst {α : Type} (x : Except CompileError α) : List CompileError → Prop
  | [] => ∃ a, x = .ok a
  | error :: _ => x = .error error

namespace FailsFirst

variable {α β : Type}

lemma ok (a : α) : FailsFirst (.ok a) [] := ⟨a, rfl⟩

/-- The errors of two computations in a row; the second one may use the result of the first. -/
lemma bind {x : Except CompileError α} {f : α → Except CompileError β}
    {errors more : List CompileError} (hx : FailsFirst x errors)
    (hf : ∀ a, x = .ok a → FailsFirst (f a) more) : FailsFirst (x >>= f) (errors ++ more) := by
  cases errors with
  | nil =>
    obtain ⟨a, rfl⟩ := hx
    exact hf a rfl
  | cons error errors =>
    have h : x = .error error := hx
    subst h
    rfl

lemma map {x : Except CompileError α} {errors : List CompileError} (f : α → β)
    (hx : FailsFirst x errors) : FailsFirst (x.map f) errors := by
  cases errors with
  | nil =>
    obtain ⟨a, rfl⟩ := hx
    exact ok (f a)
  | cons error errors =>
    have h : x = .error error := hx
    subst h
    rfl

lemma ok_iff {x : Except CompileError α} {errors : List CompileError} (h : FailsFirst x errors) :
    (∃ a, x = .ok a) ↔ errors = [] := by
  cases errors with
  | nil => simpa [FailsFirst] using h
  | cons error errors =>
    have hx : x = .error error := h
    simp [hx]

lemma error_iff {x : Except CompileError α} {errors : List CompileError} (h : FailsFirst x errors)
    (error : CompileError) : x = .error error ↔ errors.head? = some error := by
  cases errors with
  | nil =>
    obtain ⟨a, rfl⟩ := h
    simp
  | cons first errors =>
    have hx : x = .error first := h
    simp [hx]

end FailsFirst

/-! ## Rendering -/

lemma requiredPath_failsFirst (origin : Origin) (path : Option String) :
    FailsFirst (requiredPath origin path) (reportMissingPath origin path) := by
  unfold reportMissingPath reportIf requiredPath
  cases path with
  | some path => exact .ok path
  | none =>
    by_cases hlabel : origin.label = ""
    · simp [hlabel, FailsFirst]
    · simp [hlabel, FailsFirst]

lemma changeMode_failsFirst (origin : Origin) (path : String) (mode : Option UInt32) :
    FailsFirst (changeMode origin path mode) (reportMode origin mode) := by
  cases mode with
  | none => exact .ok _
  | some mode =>
    simp only [changeMode, reportMode, reportIf, Shell.octalMode?]
    by_cases hmode : mode ≤ Shell.maxMode
    · rw [if_pos hmode, if_neg (UInt32.not_lt.mpr hmode)]
      exact .ok _
    · rw [if_neg hmode, if_pos (UInt32.not_le.mp hmode)]
      rfl

lemma writeFile_failsFirst (origin : Origin) (path content : String) :
    FailsFirst (writeFile origin path content) (reportTagLine origin (some content)) := by
  unfold writeFile reportTagLine reportIf
  cases hdoc : Shell.Heredoc.ofContent? content with
  | none =>
    have htag := (Shell.Heredoc.ofContent?_eq_none_iff content).mp hdoc
    simp [htag, FailsFirst]
  | some doc =>
    have htag : ¬ HasTagLine content := by
      rw [← Shell.Heredoc.ofContent?_eq_none_iff, hdoc]
      simp
    simp [htag, FailsFirst]

namespace FileSettings

lemma declaredContent_failsFirst (s : FileSettings) (origin : Origin) (declares : Bool) :
    FailsFirst (s.declaredContent origin declares) (s.reportContents origin declares) := by
  unfold declaredContent reportContents reportIf
  cases s.content <;> cases s.contentLines <;> cases declares <;> simp [FailsFirst]

lemma create_failsFirst {s : FileSettings} {origin : Origin} {declares : Bool}
    {content : Option String} (h : s.declaredContent origin declares = .ok content) (path : String) :
    FailsFirst (create origin path content) (s.reportTagLines origin) := by
  have hnone : reportTagLine origin none = [] := by simp [reportTagLine, reportIf]
  have hcreate : FailsFirst (create origin path content) (reportTagLine origin content) := by
    cases content with
    | none =>
      rw [hnone]
      exact .ok _
    | some content => exact writeFile_failsFirst origin path content
  unfold reportTagLines
  rcases declaredContent_eq_ok h with ⟨hlines, rfl⟩ | ⟨hcontent, rfl⟩
  · rwa [hlines, hnone, List.append_nil]
  · rwa [hcontent, hnone, List.nil_append]

end FileSettings

lemma LogSettings.redirection_failsFirst (s : LogSettings) (origin : Origin) :
    FailsFirst (s.redirection origin) (s.reportTargets origin) := by
  unfold redirection reportTargets reportIf
  cases s.path <;> cases s.stdout <;> cases s.stderr <;> simp [FailsFirst]

section Resources

variable (origin : Origin) (declares : Bool) {body : Except CompileError Fragment}
  {errors : List CompileError}

lemma ExecuteSettings.render_failsFirst (s : ExecuteSettings) (hbody : FailsFirst body errors) :
    FailsFirst (s.render body) errors := by
  have h : FailsFirst (s.render body) (errors ++ []) := by
    apply hbody.bind
    intro before _
    cases s.guard? <;> exact .ok _
  rwa [List.append_nil] at h

lemma FileSettings.render_failsFirst (s : FileSettings) (hbody : FailsFirst body errors) :
    FailsFirst (s.render origin declares body)
      (reportMissingPath origin s.path ++ (s.reportContents origin declares
        ++ (errors ++ (s.reportTagLines origin ++ (reportMode origin s.mode ++ []))))) := by
  apply (requiredPath_failsFirst origin s.path).bind
  intro path _
  apply (s.declaredContent_failsFirst origin declares).bind
  intro content hcontent
  apply hbody.bind
  intro before _
  apply (create_failsFirst hcontent path).bind
  intro write _
  apply (changeMode_failsFirst origin path s.mode).bind
  intro mode _
  exact .ok _

lemma DirectorySettings.render_failsFirst (s : DirectorySettings) (hbody : FailsFirst body errors) :
    FailsFirst (s.render origin body)
      (reportMissingPath origin s.path ++ (errors ++ (reportMode origin s.mode ++ []))) := by
  apply (requiredPath_failsFirst origin s.path).bind
  intro path _
  apply hbody.bind
  intro before _
  apply (changeMode_failsFirst origin path s.mode).bind
  intro mode _
  exact .ok _

lemma LogSettings.render_failsFirst (s : LogSettings) (hbody : FailsFirst body errors) :
    FailsFirst (s.render origin body) (s.reportTargets origin ++ (errors ++ [])) := by
  apply (s.redirection_failsFirst origin).bind
  intro redirection _
  apply hbody.bind
  intro before _
  exact .ok _

lemma GemfileSettings.render_failsFirst (s : GemfileSettings) (hbody : FailsFirst body errors) :
    FailsFirst (s.render origin declares body)
      (reportMissingPath origin s.path
        ++ (reportIf (s.gems ≠ [] ∧ declares) (.conflict origin "gem" nestedDeclarations)
          ++ (errors ++ (reportTagLine origin (some (Manifest.text s.source s.gems)) ++ [])))) := by
  apply (requiredPath_failsFirst origin s.path).bind
  intro directory _
  have hwrite : FailsFirst (do
      let before ← body
      let write ← writeFile origin (manifestPath directory) (Manifest.text s.source s.gems)
      return Fragment.guarded (existsTest (manifestPath directory)) (before ++ write))
      (errors ++ (reportTagLine origin (some (Manifest.text s.source s.gems)) ++ [])) := by
    apply hbody.bind
    intro before _
    apply (writeFile_failsFirst origin _ _).bind
    intro write _
    exact .ok _
  have hgems : (!s.gems.isEmpty && declares) = decide (s.gems ≠ [] ∧ declares = true) := by
    cases s.gems <;> simp
  rw [hgems]
  unfold reportIf
  by_cases h : s.gems ≠ [] ∧ declares = true
  · rw [decide_eq_true h, if_pos h]
    rfl
  · rw [decide_eq_false h, if_neg h]
    exact hwrite

/-- A resource reports what is wrong with it before and after what is wrong in its block. -/
theorem Settings.render_failsFirst (settings : Settings) (hbody : FailsFirst body errors) :
    FailsFirst (settings.render origin declares body)
      (settings.violationsBefore origin declares ++ errors ++ settings.violationsAfter origin) := by
  cases settings with
  | execute s =>
    simpa [render, violationsBefore, violationsAfter] using s.render_failsFirst hbody
  | file s =>
    simpa [render, violationsBefore, violationsAfter] using s.render_failsFirst origin declares hbody
  | directory s =>
    simpa [render, violationsBefore, violationsAfter] using s.render_failsFirst origin hbody
  | log s =>
    simpa [render, violationsBefore, violationsAfter] using s.render_failsFirst origin hbody
  | gemfile s =>
    simpa [render, violationsBefore, violationsAfter] using s.render_failsFirst origin declares hbody

end Resources

lemma childFragments_failsFirst {children : List Child}
    (h : ∀ child ∈ children, FailsFirst child.render child.walk) :
    FailsFirst (childFragments children) (walkAll children) := by
  induction children with
  | nil => exact .ok _
  | cons child children ih =>
    rw [List.forall_mem_cons] at h
    have hcons : FailsFirst (childFragments (child :: children))
        (child.walk ++ (walkAll children ++ [])) := by
      apply h.1.bind
      intro fragment _
      apply (ih h.2).bind
      intro more _
      exact .ok _
    rwa [List.append_nil] at hcons

lemma Block.fragments_failsFirst {block : Block}
    (h : ∀ child ∈ block.children, FailsFirst child.render child.walk) :
    FailsFirst block.fragments block.walk := by
  obtain ⟨owner, helpers, children, problem⟩ := block
  cases problem with
  | some error => rfl
  | none => exact childFragments_failsFirst h

lemma Child.render_failsFirst (child : Child) : FailsFirst child.render child.walk := by
  induction child using Child.induction with
  | command text => exact .ok _
  | echo origin message => exact .ok _
  | haltOnFailedCommand origin => exact .ok _
  | block origin settings body ih =>
    exact settings.render_failsFirst origin body.hasDeclarations
      ((Block.fragments_failsFirst ih).map _)

lemma Block.script_failsFirst (block : Block) : FailsFirst block.script block.walk :=
  (fragments_failsFirst fun child _ => child.render_failsFirst).map joinScript

/-! ## The walk meets every violation -/

lemma mem_reportIf {p : Prop} [Decidable p] {error e : CompileError} :
    e ∈ reportIf p error ↔ p ∧ e = error := by
  by_cases h : p <;> simp [reportIf, h]

lemma mem_reportTagLine {origin : Origin} {content : Option String} {e : CompileError} :
    e ∈ reportTagLine origin content ↔
      ∃ text, content = some text ∧ HasTagLine text ∧ e = .contentCollision origin := by
  cases content <;> simp [reportTagLine, mem_reportIf]

lemma mem_reportMode {origin : Origin} {mode : Option UInt32} {e : CompileError} :
    e ∈ reportMode origin mode ↔
      ∃ m, mode = some m ∧ Shell.maxMode < m ∧ e = .invalidMode origin m := by
  cases mode <;> simp [reportMode, mem_reportIf]

/-- The violations on a walk through one resource are those that a resource can have. -/
lemma Settings.mem_violations {origin : Origin} {declares : Bool} {settings : Settings}
    {e : CompileError} :
    e ∈ settings.violationsBefore origin declares ∨ e ∈ settings.violationsAfter origin ↔
      settings.Violation origin (declares = true) e := by
  constructor
  · cases settings with
    | execute s => simp [violationsBefore, violationsAfter]
    | file s =>
      simp only [violationsBefore, violationsAfter, reportMissingPath, FileSettings.reportContents,
        FileSettings.reportTagLines, List.mem_append, mem_reportIf, mem_reportTagLine, mem_reportMode]
      rintro ((⟨⟨hp, hl⟩, rfl⟩ | (⟨⟨hc, hl⟩, rfl⟩ | ⟨⟨hc, hd⟩, rfl⟩) | ⟨⟨hl, hd⟩, rfl⟩) |
        (⟨_, hc, ht, rfl⟩ | ⟨_, hl, ht, rfl⟩) | ⟨_, hm, hlt, rfl⟩)
      · exact .filePath hp hl
      · exact .bothContents hc hl
      · exact .contentBesideBlock hc hd
      · exact .contentLinesBesideBlock hl hd
      · exact .contentTag hc ht
      · exact .contentLinesTag hl ht
      · exact .fileMode hm hlt
    | directory s =>
      simp only [violationsBefore, violationsAfter, reportMissingPath, mem_reportIf, mem_reportMode]
      rintro (⟨⟨hp, hl⟩, rfl⟩ | ⟨_, hm, hlt, rfl⟩)
      · exact .directoryPath hp hl
      · exact .directoryMode hm hlt
    | log s =>
      simp only [violationsBefore, violationsAfter, LogSettings.reportTargets, List.mem_append,
        mem_reportIf, List.not_mem_nil, or_false]
      rintro ((⟨⟨hp, ho, he⟩, rfl⟩ | ⟨⟨hp, ho⟩, rfl⟩) | ⟨⟨hp, he⟩, rfl⟩)
      · exact .noTarget hp ho he
      · exact .pathAndStdout hp ho
      · exact .pathAndStderr hp he
    | gemfile s =>
      simp only [violationsBefore, violationsAfter, reportMissingPath, List.mem_append, mem_reportIf,
        mem_reportTagLine]
      rintro ((⟨⟨hp, hl⟩, rfl⟩ | ⟨⟨hg, hd⟩, rfl⟩) | ⟨_, hm, ht, rfl⟩)
      · exact .gemfilePath hp hl
      · exact .gemsBesideBlock hg hd
      · obtain rfl := Option.some.inj hm
        exact .manifestTag ht
  · intro h
    cases h <;> simp_all [violationsBefore, violationsAfter, reportMissingPath, reportTagLine,
      FileSettings.reportContents, FileSettings.reportTagLines, LogSettings.reportTargets, reportMode,
      mem_reportIf]

lemma mem_walkAll {children : List Child} {e : CompileError} :
    e ∈ walkAll children ↔ ∃ child ∈ children, e ∈ child.walk := by
  induction children with
  | nil => simp [walkAll]
  | cons child children ih => simp [walkAll, ih]

lemma Block.mem_walk {block : Block} {e : CompileError} :
    e ∈ block.walk ↔ block.problem = some e ∨ ∃ child ∈ block.children, e ∈ child.walk := by
  obtain ⟨owner, helpers, children, problem⟩ := block
  simp [walk, mem_walkAll]

/-- What a walk meets in a declaration is a violation of it or in its block. -/
lemma Child.violation_of_mem_walk {e : CompileError} (child : Child) (block : Block)
    (hchild : child ∈ block.children) (h : e ∈ child.walk) : block.Violation e := by
  induction child using Child.induction generalizing block with
  | command text => simp [walk] at h
  | echo origin message => simp [walk] at h
  | haltOnFailedCommand origin => simp [walk] at h
  | block origin settings body ih =>
    simp only [walk, List.mem_append] at h
    rcases h with (hbefore | hbody) | hafter
    · exact .resource hchild (Settings.mem_violations.mp (Or.inl hbefore))
    · apply Block.Violation.nested hchild
      rcases Block.mem_walk.mp hbody with hproblem | ⟨inner, hinner, hwalk⟩
      · exact .problem hproblem
      · exact ih inner hinner body hinner hwalk
    · exact .resource hchild (Settings.mem_violations.mp (Or.inr hafter))

/-- A tree in which a walk meets nothing has a script. -/
lemma Block.exists_script_of_walk_eq_nil {block : Block} (h : block.walk = []) :
    ∃ script, block.script = .ok script :=
  block.script_failsFirst.ok_iff.mpr h

lemma Block.mem_walk_iff_violation {block : Block} {e : CompileError} :
    e ∈ block.walk ↔ block.Violation e := by
  constructor
  · intro h
    rcases mem_walk.mp h with hproblem | ⟨child, hchild, hwalk⟩
    · exact .problem hproblem
    · exact child.violation_of_mem_walk block hchild hwalk
  · intro h
    induction h with
    | problem h => exact mem_walk.mpr (Or.inl h)
    | resource child h =>
      refine mem_walk.mpr (Or.inr ⟨_, child, ?_⟩)
      rcases Settings.mem_violations.mpr h with hbefore | hafter
      · simp [Child.walk, hbefore]
      · simp [Child.walk, hafter]
    | nested child h ih =>
      refine mem_walk.mpr (Or.inr ⟨_, child, ?_⟩)
      simp [Child.walk, ih]

/-- A recipe has a script exactly when there is no violation anywhere in its tree. Otherwise its
error is the first violation on the walk, which meets all of them. -/
theorem script_fails_with_first_violation (root : Block) :
    ((∃ script, root.script = .ok script) ↔ ∀ e, ¬ root.Violation e) ∧
      (∀ e, root.script = .error e ↔ root.walk.head? = some e) ∧
      (∀ e, e ∈ root.walk ↔ root.Violation e) := by
  have h : FailsFirst root.script root.walk :=
    (Block.fragments_failsFirst fun child _ => child.render_failsFirst).map Block.joinScript
  refine ⟨?_, h.error_iff, fun e => Block.mem_walk_iff_violation⟩
  rw [h.ok_iff, List.eq_nil_iff_forall_not_mem]
  simp only [Block.mem_walk_iff_violation]

end SetupRecipe
