import SetupRecipe.Program.Run
import SetupRecipe.Proofs.Violations

/-!
# Targets of resources

Files, directories and gemfiles are made at a path, and a log redirects to one path or two. In a tree
that has a script every resource acts on its targets, at every depth, and no target is empty unless it
was declared as the empty text. A resource without a target is missing a path, and this is reported
unless the walk meets another violation first.
-/

namespace SetupRecipe
open Shell (Fragment)

/-! ## Targets -/

/-- The targets that attributes set. -/
def Settings.declaredTargets : Settings → List String
  | execute _ => []
  | file s => s.path.toList
  | directory s => s.path.toList
  | log s => s.path.toList ++ s.stdout.toList ++ s.stderr.toList
  | gemfile s => s.path.toList

/-- The paths that a resource acts on. Where a path is not declared, the label stands for it, but not
for that of a log. -/
def Settings.targets (origin : Origin) : Settings → List String
  | execute _ => []
  | file s => [s.path.getD origin.label]
  | directory s => [s.path.getD origin.label]
  | log s => (log s).declaredTargets
  | gemfile s => [s.path.getD origin.label]

/-- What a resource renders to, with every place at which it names its targets. -/
inductive Settings.ActsOn (origin : Origin) : Settings → List String → Fragment → Prop where
  | execute {s : ExecuteSettings} {fragment : Fragment} : ActsOn origin (.execute s) [] fragment
  | file {s : FileSettings} {path : String} {content : Option String}
    {before write mode : Fragment} (hwrite : FileSettings.create origin path content = .ok write)
    (hmode : changeMode origin path s.mode = .ok mode) :
    ActsOn origin (.file s) [path] (Fragment.guarded (existsTest path) (before ++ write ++ mode))
  | directory {s : DirectorySettings} {path : String} {before mode : Fragment}
    (hmode : changeMode origin path s.mode = .ok mode) :
    ActsOn origin (.directory s) [path] (before ++ Fragment.ofCode ("mkdir -p " ++ path) ++ mode)
  | bothStreams {s : LogSettings} {path : String} {before : Fragment} :
    ActsOn origin (.log s) [path] (before ++ Fragment.ofCode ("exec 1>" ++ path ++ " 2>&1"))
  | stdout {s : LogSettings} {path : String} {before : Fragment} :
    ActsOn origin (.log s) [path] (before ++ Fragment.ofCode ("exec 1>" ++ path))
  | stderr {s : LogSettings} {path : String} {before : Fragment} :
    ActsOn origin (.log s) [path] (before ++ Fragment.ofCode ("exec 2>" ++ path))
  | eachStream {s : LogSettings} {out err : String} {before : Fragment} :
    ActsOn origin (.log s) [out, err]
      (before ++ Fragment.ofCode ("exec 1>" ++ out ++ " 2>" ++ err))
  | gemfile {s : GemfileSettings} {path : String} {before write : Fragment}
    (hwrite : writeFile origin (GemfileSettings.manifestPath path) (Manifest.text s.source s.gems) =
      .ok write) :
    ActsOn origin (.gemfile s) [path]
      (Fragment.guarded (existsTest (GemfileSettings.manifestPath path)) (before ++ write))

section Resources

variable {origin : Origin} {declares : Bool} {body : Except CompileError Fragment}
  {settings : Settings} {fragment : Fragment}

lemma LogSettings.actsOn_of_redirection {s : LogSettings} {redirection : String}
    (h : s.redirection origin = .ok redirection) (before : Fragment) :
    (Settings.log s).ActsOn origin ((Settings.log s).targets origin)
      (before ++ Fragment.ofCode redirection) := by
  obtain ⟨path, stdout, stderr⟩ := s
  rcases path with _ | path <;> rcases stdout with _ | out <;> rcases stderr with _ | err
  case none.none.none => exact nomatch h
  case none.none.some =>
    obtain rfl := Except.ok.inj h
    exact .stderr
  case none.some.none =>
    obtain rfl := Except.ok.inj h
    exact .stdout
  case none.some.some =>
    obtain rfl := Except.ok.inj h
    exact .eachStream
  case some.none.none =>
    obtain rfl := Except.ok.inj h
    exact .bothStreams
  case some.none.some => exact nomatch h
  case some.some.none => exact nomatch h
  case some.some.some => exact nomatch h

lemma Settings.actsOn_targets (h : settings.render origin declares body = .ok fragment) :
    settings.ActsOn origin (settings.targets origin) fragment := by
  cases settings with
  | execute s => exact .execute
  | file s =>
    obtain ⟨content, before, write, mode, -, -, hwrite, hmode, rfl⟩ := s.render_eq_ok h
    exact .file hwrite hmode
  | directory s =>
    obtain ⟨before, mode, -, hmode, rfl⟩ := s.render_eq_ok h
    exact .directory hmode
  | log s =>
    obtain ⟨redirection, before, hredirection, -, rfl⟩ := s.render_eq_ok h
    exact s.actsOn_of_redirection hredirection before
  | gemfile s =>
    obtain ⟨before, write, -, hwrite, rfl⟩ := s.render_eq_ok h
    exact .gemfile hwrite

lemma Settings.declaredTargets_subset : settings.declaredTargets ⊆ settings.targets origin := by
  intro target htarget
  cases settings with
  | execute s => exact htarget
  | log s => exact htarget
  | _ => simp_all [declaredTargets, targets]

/-- A resource that has no target, or an empty one that it did not declare, is missing its path. -/
lemma Settings.missingPath_mem (hkind : settings.kind ≠ .execute)
    (hlacks : settings.targets origin = [] ∨ "" ∈ settings.targets origin)
    (hundeclared : "" ∉ settings.declaredTargets) :
    .missingAttribute origin "path" ∈ settings.violationsBefore origin declares := by
  have hpath : ∀ path : Option String, "" ∉ path.toList → "" = path.getD origin.label →
      .missingAttribute origin "path" ∈ reportMissingPath origin path := by
    intro path hpath hempty
    cases path with
    | none => exact mem_reportIf.mpr ⟨⟨rfl, hempty.symm⟩, rfl⟩
    | some path => exact absurd (List.mem_singleton.mpr hempty) hpath
  cases settings with
  | execute s => exact absurd rfl hkind
  | file s =>
    exact List.mem_append_left _ (hpath s.path hundeclared (by simpa [targets] using hlacks))
  | directory s => exact hpath s.path hundeclared (by simpa [targets] using hlacks)
  | gemfile s =>
    exact List.mem_append_left _ (hpath s.path hundeclared (by simpa [targets] using hlacks))
  | log s =>
    have hnone : (log s).declaredTargets = [] := hlacks.resolve_right hundeclared
    obtain ⟨hpath, hout, herr⟩ : s.path = none ∧ s.stdout = none ∧ s.stderr = none := by
      simpa [declaredTargets] using hnone
    simp [violationsBefore, LogSettings.reportTargets, mem_reportIf, hpath, hout, herr]

end Resources

/-! ## Trees -/

/-- A resource with a block, at any depth of a tree. -/
inductive Block.Holds : Block → Origin → Settings → Block → Prop where
  | here {block body : Block} {origin : Origin} {settings : Settings}
    (child : .block origin settings body ∈ block.children) : Holds block origin settings body
  | nested {block outer body : Block} {origin place : Origin} {settings around : Settings}
    (child : .block place around outer ∈ block.children) (h : Holds outer origin settings body) :
    Holds block origin settings body

namespace Block.Holds

variable {root body : Block} {origin : Origin} {settings : Settings}

lemma mem_walk (h : root.Holds origin settings body) {e : CompileError}
    (he : e ∈ (Child.block origin settings body).walk) : e ∈ root.walk := by
  induction h with
  | here child => exact Block.mem_walk.mpr (Or.inr ⟨_, child, he⟩)
  | nested child _ ih =>
    refine Block.mem_walk.mpr (Or.inr ⟨_, child, ?_⟩)
    simp [Child.walk, ih he]

lemma exists_fragment (h : root.Holds origin settings body) (hwalk : root.walk = []) :
    ∃ fragment, settings.render origin body.hasDeclarations body.renderBody = .ok fragment := by
  apply (Child.render_failsFirst (.block origin settings body)).ok_iff.mpr
  rw [List.eq_nil_iff_forall_not_mem]
  intro e he
  have hmem := h.mem_walk he
  rw [hwalk] at hmem
  exact List.not_mem_nil hmem

lemma missingPath_mem_walk (h : root.Holds origin settings body) (hkind : settings.kind ≠ .execute)
    (hlacks : settings.targets origin = [] ∨ "" ∈ settings.targets origin)
    (hundeclared : "" ∉ settings.declaredTargets) :
    .missingAttribute origin "path" ∈ root.walk := by
  apply h.mem_walk
  simp [Child.walk, settings.missingPath_mem hkind hlacks hundeclared]

end Block.Holds

/-- In a tree that has a script, all resources act on targets, and no target is empty but those that
were declared so. Where a target is missing or empty without having been declared, the tree has no
script: the missing path is reported, or what the walk meets before. -/
theorem Block.targets_acted_on_or_missing (root : Block) :
    (∀ script, root.script = .ok script → ∀ origin settings body,
      root.Holds origin settings body → settings.kind ≠ .execute →
        (∃ fragment,
          settings.render origin body.hasDeclarations body.renderBody = .ok fragment ∧
            settings.ActsOn origin (settings.targets origin) fragment) ∧
        settings.targets origin ≠ [] ∧
        ("" ∈ settings.targets origin ↔ "" ∈ settings.declaredTargets)) ∧
    ∀ origin settings body, root.Holds origin settings body → settings.kind ≠ .execute →
      settings.targets origin = [] ∨ "" ∈ settings.targets origin → "" ∉ settings.declaredTargets →
        ∃ before after, root.walk = before ++ .missingAttribute origin "path" :: after ∧
          root.script = .error (before.headD (.missingAttribute origin "path")) := by
  constructor
  · intro script hscript origin settings body hholds hkind
    have hwalk : root.walk = [] := root.script_failsFirst.ok_iff.mp ⟨script, hscript⟩
    have hmissing : ¬ ((settings.targets origin = [] ∨ "" ∈ settings.targets origin) ∧
        "" ∉ settings.declaredTargets) := by
      rintro ⟨hlacks, hundeclared⟩
      have hmem := hholds.missingPath_mem_walk hkind hlacks hundeclared
      rw [hwalk] at hmem
      exact List.not_mem_nil hmem
    obtain ⟨fragment, hrender⟩ := hholds.exists_fragment hwalk
    refine ⟨⟨fragment, hrender, Settings.actsOn_targets hrender⟩, ?_, ?_, ?_⟩
    · intro hnone
      apply hmissing
      refine ⟨Or.inl hnone, fun hdeclared => ?_⟩
      have htarget : "" ∈ settings.targets origin := Settings.declaredTargets_subset hdeclared
      rw [hnone] at htarget
      exact List.not_mem_nil htarget
    · intro hempty
      exact Decidable.not_not.mp fun hundeclared => hmissing ⟨Or.inr hempty, hundeclared⟩
    · exact fun hdeclared => Settings.declaredTargets_subset hdeclared
  · intro origin settings body hholds hkind hlacks hundeclared
    obtain ⟨before, after, hwalk⟩ :=
      List.append_of_mem (hholds.missingPath_mem_walk hkind hlacks hundeclared)
    refine ⟨before, after, hwalk, ?_⟩
    apply (root.script_failsFirst.error_iff _).mpr
    rw [hwalk]
    cases before <;> rfl

/-- A log, and a directory with a file that has no label. -/
def loggedSite (path : Option String) : Block :=
  ⟨none, [], [
    .block ⟨.block .log, "", 0⟩ (.log ⟨none, some "out.log", some "err.log"⟩) ⟨none, [], [], none⟩,
    .block ⟨.block .directory, "/srv", 1⟩ (.directory ⟨none, none⟩)
      ⟨none, [], [
        .block ⟨.block .file, "", 0⟩ (.file ⟨path, none, none, none⟩) ⟨none, [], [], none⟩], none⟩],
    none⟩

theorem targets_acted_on_or_missing_site :
    (∃ fragment,
      (Settings.file ⟨some "/srv/motd", none, none, none⟩).ActsOn ⟨.block .file, "", 0⟩
        ["/srv/motd"] fragment) ∧
      (loggedSite none).script = .error (.missingAttribute ⟨.block .file, "", 0⟩ "path") := by
  have hholds : ∀ path, (loggedSite path).Holds ⟨.block .file, "", 0⟩
      (.file ⟨path, none, none, none⟩) ⟨none, [], [], none⟩ := by
    intro path
    exact .nested (List.mem_cons_of_mem _ List.mem_cons_self) (.here List.mem_cons_self)
  constructor
  · obtain ⟨hrendered, -⟩ := (loggedSite (some "/srv/motd")).targets_acted_on_or_missing
    obtain ⟨⟨fragment, -, hacts⟩, -⟩ := hrendered _ rfl _ _ _ (hholds _) (by decide)
    exact ⟨fragment, hacts⟩
  · obtain ⟨-, hmissing⟩ := (loggedSite none).targets_acted_on_or_missing
    obtain ⟨before, after, hwalk, hscript⟩ :=
      hmissing _ _ _ (hholds none) (by decide) (by decide) (by decide)
    have hfirst : (loggedSite none).walk =
        [.missingAttribute ⟨.block .file, "", 0⟩ "path"] := rfl
    rw [hscript]
    cases before with
    | nil => rfl
    | cons first before => simp [hfirst] at hwalk

/-- The script of a resource with an empty path. -/
def scriptOfEmptyPath (kind : BlockKind) : Option (Except CompileError String) :=
  (Program.evaluate Program.defaultDepth [.block kind (.text "x") [.set (.path (.text ""))]]
    .empty).map Block.script

theorem emptyPath_acted_on :
    scriptOfEmptyPath .directory = some (.ok "mkdir -p \n") ∧
      scriptOfEmptyPath .file = some (.ok "if ! test -e ; then\n  touch \nfi\n") ∧
      scriptOfEmptyPath .gemfile = some
        (.ok "if ! test -e /Gemfile; then\n  cat <<'GALLEY_EOF' > /Gemfile\nGALLEY_EOF\nfi\n") ∧
      scriptOfEmptyPath .log = some (.ok "exec 1> 2>&1\n") := by
  -- the manifest sorts its gems, which are unfolded only on request
  exact ⟨rfl, rfl, by with_unfolding_all rfl, rfl⟩

end SetupRecipe
