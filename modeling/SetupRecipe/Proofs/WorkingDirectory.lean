import SetupRecipe.Proofs.CommandWords
import SetupRecipe.Proofs.ReadBack

/-!
# Working directories of commands

A directory change in a script lasts until the next one, whichever block declared it, so that a command
runs in the directory that was entered last. If every block restored the directory at its end, a command
would run in the directory of its own scope. The two agree on all outcomes of the guards exactly when no
command can be reached from a directory other than its own, and this can be read off the tree.
-/

namespace SetupRecipe.Shell

/-! ## Runs -/

/-- A run so far: the working directory, the outcomes of the tests that are still to come, and the
commands that ran, each with the directory in which it ran. -/
structure Trace where
  directory : String
  outcomes : List Bool
  ran : List (String × String)
deriving DecidableEq

namespace Trace

def start (directory : String) (outcomes : List Bool) : Trace := ⟨directory, outcomes, []⟩

def andThen (first : Trace) (next : String → List Bool → Trace) : Trace :=
  let rest := next first.directory first.outcomes
  { rest with ran := first.ran ++ rest.ran }

/-- Skips the body if it is guarded and the test succeeds. Tests beyond the given outcomes fail. -/
def guardedBy (guarded : Bool) (directory : String) (outcomes : List Bool) (body : List Bool → Trace) :
    Trace :=
  if guarded && outcomes.headD false then start directory outcomes.tail
  else body (if guarded then outcomes.tail else outcomes)

end Trace

/-- The directory after a change to a path. -/
def changedDirectory (directory path : String) : String :=
  if path.toList.head? = some '/' then path else directory ++ "/" ++ path

def performCommand (command directory : String) (outcomes : List Bool) : Trace :=
  match words command with
  | ["cd", path] => .start (changedDirectory directory path) outcomes
  | _ => ⟨directory, outcomes, [(directory, command)]⟩

mutual

def Action.perform : Action → String → List Bool → Trace
  | .run command, directory, outcomes => performCommand command directory outcomes
  | .print _, directory, outcomes => .start directory outcomes
  | .write _ _, directory, outcomes => .start directory outcomes
  | .guarded _ body, directory, outcomes =>
    Trace.guardedBy true directory outcomes (performAll body directory)

def performAll : List Action → String → List Bool → Trace
  | [], directory, outcomes => .start directory outcomes
  | action :: actions, directory, outcomes =>
    (action.perform directory outcomes).andThen (performAll actions)

end

/-- The commands that a script runs, each with its directory. -/
def commandsRun? (script directory : String) (outcomes : List Bool) :
    Option (List (String × String)) :=
  (readScript? script).map fun actions => (performAll actions directory outcomes).ran

end SetupRecipe.Shell

namespace SetupRecipe
open Shell

/-! ## Runs of trees -/

namespace Settings

def cwd? : Settings → Option String
  | .execute s => s.cwd
  | _ => none

def isGuarded : Settings → Bool
  | .execute s => s.notIf.isSome || s.creates.isSome
  | _ => false

end Settings

mutual

/-- Runs a tree on the outcomes of its guards. A block enters the directory that it sets, and the
directory stays entered after the block unless blocks restore the one before. -/
def Block.trace (restores : Bool) : Block → String → List Bool → Trace
  | ⟨_, _, children, _⟩ => traceAll restores children

def Child.trace (restores : Bool) : Child → String → List Bool → Trace
  | .command text, directory, outcomes => ⟨directory, outcomes, [(directory, text)]⟩
  | .echo _ _, directory, outcomes => .start directory outcomes
  | .haltOnFailedCommand _, directory, outcomes => .start directory outcomes
  | .block _ settings body, directory, outcomes =>
    let inside := Trace.guardedBy settings.isGuarded directory outcomes
      (body.trace restores (settings.cwd?.getD directory))
    { inside with directory := if restores then directory else inside.directory }

def traceAll (restores : Bool) : List Child → String → List Bool → Trace
  | [], directory, outcomes => .start directory outcomes
  | child :: children, directory, outcomes =>
    (child.trace restores directory outcomes).andThen (traceAll restores children)

end

mutual

/-- The directories in which a run of a tree can end. -/
def Block.exits : Block → String → List String
  | ⟨_, _, children, _⟩ => exitsAll children

def Child.exits : Child → String → List String
  | .command _, directory => [directory]
  | .echo _ _, directory => [directory]
  | .haltOnFailedCommand _, directory => [directory]
  | .block _ settings body, directory =>
    (if settings.isGuarded then [directory] else []) ++ body.exits (settings.cwd?.getD directory)

def exitsAll : List Child → String → List String
  | [], directory => [directory]
  | child :: children, directory => (child.exits directory).flatMap (exitsAll children)

end

mutual

/-- Whether every command of a tree that is entered from a directory can be reached only from the
directory of its scope. -/
def Block.confined : Block → String → String → Bool
  | ⟨_, _, children, _⟩ => confinedAll children

def Child.confined : Child → String → String → Bool
  | .command _, scope, directory => directory = scope
  | .echo _ _, _, _ => true
  | .haltOnFailedCommand _, _, _ => true
  | .block _ settings body, scope, directory =>
    body.confined (settings.cwd?.getD scope) (settings.cwd?.getD directory)

def confinedAll : List Child → String → String → Bool
  | [], _, _ => true
  | child :: children, scope, directory =>
    child.confined scope directory && (child.exits directory).all (confinedAll children scope)

end

/-! ## Lasting directories and scopes -/

namespace Shell

namespace Trace

/-- The same tests were asked and the same commands ran, in whatever directories. -/
def SameSteps (a b : Trace) : Prop :=
  a.outcomes = b.outcomes ∧ a.ran.map Prod.snd = b.ran.map Prod.snd

lemma andThen_start (trace : Trace) : trace.andThen start = trace := by
  simp [andThen, start]

lemma andThen_assoc (trace : Trace) (f g : String → List Bool → Trace) :
    (trace.andThen f).andThen g =
      trace.andThen fun directory outcomes => (f directory outcomes).andThen g := by
  simp [andThen]

/-- The outcomes with which a body is entered that then meets the given ones. -/
def entering (guarded : Bool) (outcomes : List Bool) : List Bool :=
  if guarded then false :: outcomes else outcomes

lemma entering_append (guarded : Bool) (outcomes more : List Bool) :
    entering guarded outcomes ++ more = entering guarded (outcomes ++ more) := by
  cases guarded <;> rfl

lemma guardedBy_entering (guarded : Bool) (directory : String) (outcomes : List Bool)
    (body : List Bool → Trace) :
    guardedBy guarded directory (entering guarded outcomes) body = body outcomes := by
  cases guarded <;> rfl

end Trace

/-- What runs in which directories last have to do with runs in scope, with the directories in which they
end and with the directories from which they are confined to a scope. -/
structure Charts (run reference : String → List Bool → Trace) (exits : String → List String)
    (confined : String → String → Bool) : Prop where
  steps : ∀ directory scope outcomes, (run directory outcomes).SameSteps (reference scope outcomes)
  stays : ∀ scope outcomes, (reference scope outcomes).directory = scope
  ends : ∀ directory outcomes, (run directory outcomes).directory ∈ exits directory
  /-- Some outcomes lead to each exit, and no more of them are used up on the way. -/
  reaches : ∀ directory, ∀ exit ∈ exits directory, ∃ outcomes, ∀ more,
    (run directory (outcomes ++ more)).directory = exit ∧
      (run directory (outcomes ++ more)).outcomes = more
  confined_iff : ∀ scope directory, confined scope directory ↔
    ∀ outcomes, (run directory outcomes).ran = (reference scope outcomes).ran

namespace Charts

lemma start : Charts .start .start (fun directory => [directory]) (fun _ _ => true) where
  steps _ _ _ := ⟨rfl, rfl⟩
  stays _ _ := rfl
  ends _ _ := List.mem_singleton.mpr rfl
  reaches _ _ hexit := ⟨[], fun _ => ⟨(List.mem_singleton.mp hexit).symm, rfl⟩⟩
  confined_iff _ _ := by simp [Trace.start]

lemma command (text : String) :
    Charts (fun directory outcomes => ⟨directory, outcomes, [(directory, text)]⟩)
      (fun directory outcomes => ⟨directory, outcomes, [(directory, text)]⟩)
      (fun directory => [directory]) (fun scope directory => directory = scope) where
  steps _ _ _ := ⟨rfl, rfl⟩
  stays _ _ := rfl
  ends _ _ := List.mem_singleton.mpr rfl
  reaches _ _ hexit := ⟨[], fun _ => ⟨(List.mem_singleton.mp hexit).symm, rfl⟩⟩
  confined_iff _ _ := by simp

section Sequences

variable {run run' reference reference' : String → List Bool → Trace}
  {exits exits' : String → List String} {confined confined' : String → String → Bool}

/-- Two runs in sequence run the same commands in the same directories as in scope exactly when the
first does and the second does from every exit of the first. -/
lemma ran_andThen_iff (hfirst : Charts run reference exits confined) (scope directory : String) :
    (∀ outcomes, ((run directory outcomes).andThen run').ran =
        ((reference scope outcomes).andThen reference').ran) ↔
      (∀ outcomes, (run directory outcomes).ran = (reference scope outcomes).ran) ∧
        ∀ exit ∈ exits directory, ∀ outcomes,
          (run' exit outcomes).ran = (reference' scope outcomes).ran := by
  constructor
  · intro h
    -- the same commands run in the first part, so that both sides split at the same place
    have hparts (outcomes : List Bool) :
        (run directory outcomes).ran = (reference scope outcomes).ran ∧
          (run' (run directory outcomes).directory (run directory outcomes).outcomes).ran =
            (reference' scope (run directory outcomes).outcomes).ran := by
      obtain ⟨houtcomes, hcommands⟩ := hfirst.steps directory scope outcomes
      have hlength : (run directory outcomes).ran.length = (reference scope outcomes).ran.length := by
        simpa using congrArg List.length hcommands
      have hran := h outcomes
      simp only [Trace.andThen, hfirst.stays, ← houtcomes] at hran
      exact List.append_inj hran hlength
    refine ⟨fun outcomes => (hparts outcomes).1, fun exit hexit outcomes => ?_⟩
    -- the outcomes that lead to the exit, and then the given ones
    obtain ⟨leading, hleading⟩ := hfirst.reaches directory exit hexit
    have hrest := (hparts (leading ++ outcomes)).2
    rwa [(hleading outcomes).1, (hleading outcomes).2] at hrest
  · intro ⟨hran, hrest⟩ outcomes
    have houtcomes := (hfirst.steps directory scope outcomes).1
    have hexit := hrest _ (hfirst.ends directory outcomes) (run directory outcomes).outcomes
    simp only [Trace.andThen, hfirst.stays, ← houtcomes]
    rw [hran, hexit]

lemma andThen (hfirst : Charts run reference exits confined)
    (hsecond : Charts run' reference' exits' confined') :
    Charts (fun directory outcomes => (run directory outcomes).andThen run')
      (fun directory outcomes => (reference directory outcomes).andThen reference')
      (fun directory => (exits directory).flatMap exits')
      (fun scope directory => confined scope directory && (exits directory).all (confined' scope)) := by
  constructor
  case steps =>
    intro directory scope outcomes
    obtain ⟨houtcomes, hcommands⟩ := hfirst.steps directory scope outcomes
    obtain ⟨houtcomes', hcommands'⟩ := hsecond.steps (run directory outcomes).directory scope
      (run directory outcomes).outcomes
    simp only [Trace.SameSteps, Trace.andThen, List.map_append, hfirst.stays, ← houtcomes]
    exact ⟨houtcomes', by rw [hcommands, hcommands']⟩
  case stays =>
    intro scope outcomes
    simp only [Trace.andThen, hfirst.stays, hsecond.stays]
  case ends =>
    intro directory outcomes
    exact List.mem_flatMap.mpr ⟨_, hfirst.ends directory outcomes, hsecond.ends _ _⟩
  case reaches =>
    intro directory exit hexit
    obtain ⟨middle, hmiddle, hexit⟩ := List.mem_flatMap.mp hexit
    obtain ⟨leading, hleading⟩ := hfirst.reaches directory middle hmiddle
    obtain ⟨further, hfurther⟩ := hsecond.reaches middle exit hexit
    refine ⟨leading ++ further, fun more => ?_⟩
    rw [List.append_assoc]
    simp only [Trace.andThen, (hleading (further ++ more)).1, (hleading (further ++ more)).2]
    exact hfurther more
  case confined_iff =>
    intro scope directory
    rw [hfirst.ran_andThen_iff, Bool.and_eq_true, List.all_eq_true, hfirst.confined_iff]
    simp only [hsecond.confined_iff]

/-- A run that enters a directory, and that does nothing if it is guarded by a test that succeeds. -/
lemma guarded {guarded : Bool} {cwd : Option String}
    (hinner : Charts run reference exits confined) :
    Charts
      (fun directory outcomes =>
        Trace.guardedBy guarded directory outcomes (run (cwd.getD directory)))
      (fun directory outcomes =>
        { Trace.guardedBy guarded directory outcomes (reference (cwd.getD directory)) with directory })
      (fun directory => (if guarded then [directory] else []) ++ exits (cwd.getD directory))
      (fun scope directory => confined (cwd.getD scope) (cwd.getD directory)) := by
  constructor
  case steps =>
    intro directory scope outcomes
    unfold Trace.guardedBy
    by_cases hskipped : (guarded && outcomes.headD false) = true
    · rw [if_pos hskipped, if_pos hskipped]
      exact ⟨rfl, rfl⟩
    · rw [if_neg hskipped, if_neg hskipped]
      exact hinner.steps _ _ _
  case stays =>
    intro scope outcomes
    rfl
  case ends =>
    intro directory outcomes
    rw [Trace.guardedBy, List.mem_append]
    by_cases hskipped : (guarded && outcomes.headD false) = true
    · have hguarded : guarded = true := (Bool.and_eq_true_iff.mp hskipped).1
      rw [if_pos hskipped, if_pos hguarded]
      exact Or.inl (List.mem_singleton.mpr rfl)
    · rw [if_neg hskipped]
      exact Or.inr (hinner.ends _ _)
  case reaches =>
    intro directory exit hexit
    rcases List.mem_append.mp hexit with hskipped | hentered
    · obtain ⟨hguarded, hexit⟩ := List.mem_ite_nil_right.mp hskipped
      obtain rfl := List.mem_singleton.mp hexit
      refine ⟨[true], fun more => ?_⟩
      rw [hguarded]
      exact ⟨rfl, rfl⟩
    · obtain ⟨outcomes, houtcomes⟩ := hinner.reaches _ exit hentered
      refine ⟨Trace.entering guarded outcomes, fun more => ?_⟩
      rw [Trace.entering_append, Trace.guardedBy_entering]
      exact houtcomes more
  case confined_iff =>
    intro scope directory
    rw [hinner.confined_iff]
    constructor
    · intro h outcomes
      unfold Trace.guardedBy
      by_cases hskipped : (guarded && outcomes.headD false) = true
      · rw [if_pos hskipped, if_pos hskipped]
        rfl
      · rw [if_neg hskipped, if_neg hskipped]
        exact h _
    · intro h outcomes
      have hentered := h (Trace.entering guarded outcomes)
      rwa [Trace.guardedBy_entering, Trace.guardedBy_entering] at hentered

end Sequences

end Charts

end Shell

lemma traceAll_charts {children : List Child}
    (h : ∀ child ∈ children,
      Charts (child.trace false) (child.trace true) child.exits child.confined) :
    Charts (traceAll false children) (traceAll true children) (exitsAll children)
      (confinedAll children) := by
  induction children with
  | nil => exact .start
  | cons child children ih =>
    rw [List.forall_mem_cons] at h
    exact h.1.andThen (ih h.2)

lemma Child.charts (child : Child) :
    Charts (child.trace false) (child.trace true) child.exits child.confined := by
  induction child using Child.induction with
  | command text => exact .command text
  | echo origin message => exact .start
  | haltOnFailedCommand origin => exact .start
  | block origin settings body ih =>
    obtain ⟨owner, helpers, children, problem⟩ := body
    exact (traceAll_charts ih).guarded

lemma Block.charts (block : Block) :
    Charts (block.trace false) (block.trace true) block.exits block.confined := by
  obtain ⟨owner, helpers, children, problem⟩ := block
  exact traceAll_charts fun child _ => child.charts

/-! ## Trees of execute blocks -/

/-- Whether all texts of an execute block read as they stand, with an absolute path for the
directory. -/
def Settings.executes (origin : Origin) : Settings → Bool
  | .execute s =>
    ((Settings.execute s).rawTexts origin).all (fun text => IsBare text) &&
      s.cwd.all fun path => isPathWord path && path.toList.head? = some '/'
  | _ => false

/-- Whether a declaration is an execute block, an echo or a command that is no directory change. -/
def Child.executes : Child → Bool
  | .command text => IsCommand text ∧ (words text).head? ≠ some "cd"
  | .echo _ _ => true
  | .haltOnFailedCommand _ => false
  | .block origin settings _ => settings.executes origin

lemma Settings.of_executes {origin : Origin} {settings : Settings} (h : settings.executes origin) :
    ∃ s, settings = .execute s ∧ (∀ text ∈ settings.rawTexts origin, IsBare text) ∧
      ∀ path, s.cwd = some path → ' ' ∉ path.toList ∧ path.toList.head? = some '/' := by
  cases settings with
  | execute s =>
    unfold executes at h
    rw [Bool.and_eq_true, List.all_eq_true] at h
    refine ⟨s, rfl, fun text htext => of_decide_eq_true (h.1 text htext), fun path hpath => ?_⟩
    have hcwd := h.2
    rw [hpath, Option.all_some, Bool.and_eq_true, decide_eq_true_eq] at hcwd
    exact ⟨blank_not_mem_of_isPathWord hcwd.1, hcwd.2⟩
  | file s => exact nomatch h
  | directory s => exact nomatch h
  | log s => exact nomatch h
  | gemfile s => exact nomatch h

lemma Block.readable_of_executes {root : Block} (h : root.every Child.executes) :
    root.Readable := by
  rw [readable_iff]
  refine every_induction ?command ?echo ?haltOnFailedCommand ?resource h
  case command => exact fun text htest => (of_decide_eq_true htest).1
  case echo => exact fun origin message htest => trivial
  case haltOnFailedCommand => exact fun origin htest => nomatch htest
  case resource =>
    intro origin settings body htest ih
    obtain ⟨s, -, hraw, -⟩ := Settings.of_executes htest
    exact ⟨hraw, readable_iff.mpr ih⟩

/-! ## Runs of declared actions -/

namespace Shell

lemma performAll_append (first second : List Action) (directory : String) (outcomes : List Bool) :
    performAll (first ++ second) directory outcomes =
      (performAll first directory outcomes).andThen (performAll second) := by
  induction first generalizing directory outcomes with
  | nil => rfl
  | cons action first ih =>
    have hnext : performAll (first ++ second) =
        fun directory outcomes => (performAll first directory outcomes).andThen (performAll second) := by
      funext directory outcomes
      exact ih directory outcomes
    rw [List.cons_append, performAll, performAll, hnext, Trace.andThen_assoc]

lemma performAll_single (action : Action) (directory : String) (outcomes : List Bool) :
    performAll [action] directory outcomes = action.perform directory outcomes :=
  (action.perform directory outcomes).andThen_start

lemma performCommand_of_not_cd {command : String} (h : (words command).head? ≠ some "cd")
    (directory : String) (outcomes : List Bool) :
    performCommand command directory outcomes = ⟨directory, outcomes, [(directory, command)]⟩ := by
  unfold performCommand
  split
  · next hwords => simp [hwords] at h
  · rfl

lemma performCommand_cd {path : String} (hword : ' ' ∉ path.toList)
    (habsolute : path.toList.head? = some '/') (directory : String) (outcomes : List Bool) :
    performCommand ("cd " ++ path) directory outcomes = .start path outcomes := by
  have hverb : "cd " = "cd" ++ " " := by decide
  have hchanged : changedDirectory directory path = path := if_pos habsolute
  rw [performCommand, hverb, words_two (by decide) hword]
  simp only [hchanged]

end Shell

/-- An execute block enters its directory behind its guard. -/
lemma ExecuteSettings.performAll_actions {s : ExecuteSettings}
    (hcwd : ∀ path, s.cwd = some path → ' ' ∉ path.toList ∧ path.toList.head? = some '/')
    (inner : List Action) (directory : String) (outcomes : List Bool) :
    performAll (s.actions inner) directory outcomes =
      Trace.guardedBy (s.notIf.isSome || s.creates.isSome) directory outcomes
        (performAll inner (s.cwd.getD directory)) := by
  have hbody : performAll (s.cwd.toList.map (fun path => .run ("cd " ++ path)) ++ inner) directory =
      performAll inner (s.cwd.getD directory) := by
    funext outcomes
    rw [performAll_append]
    cases hpath : s.cwd with
    | none => rfl
    | some path =>
      obtain ⟨hword, habsolute⟩ := hcwd path hpath
      have hchange : performAll [.run ("cd " ++ path)] directory outcomes = .start path outcomes := by
        rw [performAll_single]
        exact performCommand_cd hword habsolute directory outcomes
      rw [Option.toList_some, List.map_singleton, hchange]
      rfl
  unfold actions
  cases s.notIf with
  | some test =>
    rw [performAll_single, Action.perform, hbody]
    rfl
  | none =>
    cases s.creates with
    | some path =>
      rw [performAll_single, Action.perform, hbody]
      rfl
    | none =>
      rw [hbody]
      rfl

lemma DeclareAll.performAll_eq {children : List Child}
    (hchildren : ∀ child ∈ children, ∀ actions, child.Declares actions →
      performAll actions = child.trace false)
    {actions : List Action} (h : DeclareAll children actions) :
    performAll actions = traceAll false children := by
  induction children generalizing actions with
  | nil =>
    cases h
    rfl
  | cons child children ih =>
    rw [List.forall_mem_cons] at hchildren
    cases h with
    | @cons _ _ first rest hfirst hrest =>
      funext directory outcomes
      rw [performAll_append, hchildren.1 first hfirst, ih hchildren.2 hrest]
      rfl

/-- What a tree declares runs as the tree does, and no block restores a directory. -/
lemma Block.Declares.performAll_eq {root : Block} (hexecutes : root.every Child.executes)
    {actions : List Action} (h : root.Declares actions) : performAll actions = root.trace false := by
  cases h with
  | children hall =>
    refine DeclareAll.performAll_eq (every_induction ?command ?echo ?haltOnFailedCommand ?resource
      hexecutes) hall
    case command =>
      intro text htest actions hactions
      cases hactions
      funext directory outcomes
      rw [performAll_single]
      exact performCommand_of_not_cd (of_decide_eq_true htest).2 directory outcomes
    case echo =>
      intro origin message htest actions hactions
      cases hactions
      funext directory outcomes
      exact performAll_single _ directory outcomes
    case haltOnFailedCommand => exact fun origin htest => nomatch htest
    case resource =>
      intro origin settings body htest ih actions hactions
      obtain ⟨s, rfl, -, hcwd⟩ := Settings.of_executes htest
      cases hactions with
      | block inside does =>
        cases does
        cases inside with
        | children hall =>
          funext directory outcomes
          rw [s.performAll_actions hcwd, DeclareAll.performAll_eq ih hall]
          rfl

lemma commandsRun?_of_executes {root : Block} {script : String}
    (hexecutes : root.every Child.executes) (h : root.script = .ok script) (directory : String)
    (outcomes : List Bool) :
    commandsRun? script directory outcomes = some (root.trace false directory outcomes).ran := by
  obtain ⟨actions, hactions, hread⟩ :=
    Block.readScript?_of_readable (Block.readable_of_executes hexecutes) h
  rw [commandsRun?, hread, Option.map_some, hactions.performAll_eq hexecutes]

/-- Every command of a script runs in the directory that was entered last, whichever block entered it.
Whatever the outcomes of the guards are, this is the directory of the command's own scope exactly when
the tree is confined to the directory in which the script starts. -/
theorem commandsRun?_inScope_iff_confined {root : Block} {script : String}
    (hexecutes : root.every Child.executes) (h : root.script = .ok script) (directory : String) :
    (∀ outcomes, commandsRun? script directory outcomes =
        some (root.trace false directory outcomes).ran) ∧
      ((∀ outcomes, commandsRun? script directory outcomes =
          some (root.trace true directory outcomes).ran) ↔
        root.confined directory directory) := by
  have hlasting := commandsRun?_of_executes hexecutes h directory
  refine ⟨hlasting, ?_⟩
  rw [root.charts.confined_iff]
  simp only [hlasting, Option.some.injEq]

/-- A project and its assets, each in a directory of its own, and a listing in another directory. -/
def bundleProject : Block :=
  ⟨none, [], [
    .block ⟨.block .execute, "install bundler", 0⟩ (.execute ⟨none, none, none⟩)
      ⟨none, [], [.command "gem install bundler"], none⟩,
    .block ⟨.block .execute, "bundle", 1⟩
      (.execute ⟨some "/data/projects/foo", some "test -d vendor", none⟩)
      ⟨none, [], [
        .command "gem bundle",
        .block ⟨.block .execute, "assets", 0⟩ (.execute ⟨some "/data/assets", none, some "all.css"⟩)
          ⟨none, [], [.command "make all"], none⟩], none⟩,
    .block ⟨.block .execute, "logs", 2⟩ (.execute ⟨some "/var/log", none, none⟩)
      ⟨none, [], [.command "ls"], none⟩], none⟩

theorem commandsRun?_inScope_bundleProject :
    bundleProject.every Child.executes ∧ ∃ script, bundleProject.script = .ok script ∧
      ∀ outcomes, commandsRun? script "/home/ada" outcomes =
        some (bundleProject.trace true "/home/ada" outcomes).ran := by
  have hexecutes : bundleProject.every Child.executes := by decide
  exact ⟨hexecutes, _, rfl,
    (commandsRun?_inScope_iff_confined hexecutes rfl "/home/ada").2.mpr (by decide)⟩

/-- A block that changes the directory, and a block after it that does not. -/
def backHome : Block :=
  ⟨none, [], [
    .block ⟨.block .execute, "install bundler", 0⟩ (.execute ⟨none, none, none⟩)
      ⟨none, [], [.command "gem install bundler"], none⟩,
    .block ⟨.block .execute, "bundle some project", 1⟩
      (.execute ⟨some "/data/projects/foo", none, none⟩)
      ⟨none, [], [.command "gem bundle"], none⟩,
    .block ⟨.block .execute, "back home", 2⟩ (.execute ⟨none, none, none⟩)
      ⟨none, [], [.command "ls"], none⟩], none⟩

/-- The last block sets no directory, and still does not run at home. -/
theorem commandsRun?_backHome :
    backHome.every Child.executes ∧ ∃ script, backHome.script = .ok script ∧
      commandsRun? script "/home/ada" [] =
        some [("/home/ada", "gem install bundler"), ("/data/projects/foo", "gem bundle"),
          ("/data/projects/foo", "ls")] ∧
      (backHome.trace true "/home/ada" []).ran =
        [("/home/ada", "gem install bundler"), ("/data/projects/foo", "gem bundle"),
          ("/home/ada", "ls")] := by
  have hexecutes : backHome.every Child.executes := by decide
  exact ⟨hexecutes, _, rfl, commandsRun?_of_executes hexecutes rfl "/home/ada" [], rfl⟩

end SetupRecipe
