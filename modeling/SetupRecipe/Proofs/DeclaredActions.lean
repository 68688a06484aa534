import Mathlib.Data.List.DropRight
import SetupRecipe.Proofs.ManifestEntries
import SetupRecipe.Proofs.Permissions
import SetupRecipe.Proofs.ScriptReader
import SetupRecipe.Proofs.Trees

/-!
# Declared actions

What a tree declares is said here without its script: the commands and messages, the contents with
their paths, and the guards with their tests and bodies, all in the order of declaration. No tree
declares two different sequences of actions.
-/

namespace SetupRecipe
open Shell

/-! ## Resources -/

/-- The path of a resource: the declared one, or else its label. -/
def Origin.pathOr (origin : Origin) (path : Option String) : String := path.getD origin.label

/-- Sets the permissions of a path, if any were declared. -/
inductive SetsMode (path : String) : Option UInt32 → List Action → Prop where
  | kept : SetsMode path none []
  | changed {mode : UInt32} {digits : String} (h : IsMode digits mode) :
    SetsMode path (some mode) [.run ("chmod " ++ digits ++ " " ++ path)]

/-- Where the manifest of a directory stands, however many slashes end the directory's path. -/
def Manifest.StandsAt (directory path : String) : Prop :=
  ∃ base slashes, directory = base ++ String.ofList (List.replicate slashes '/') ∧
    base.toList.getLast? ≠ some '/' ∧ path = base ++ "/Gemfile"

/-- A test of its own comes before the test whether something exists. -/
def ExecuteSettings.actions (s : ExecuteSettings) (inner : List Action) : List Action :=
  let body := s.cwd.toList.map (fun path => .run ("cd " ++ path)) ++ inner
  match s.notIf, s.creates with
  | some test, _ => [.guarded test body]
  | none, some path => [.guarded ("test -e " ++ path) body]
  | none, none => body

def FileSettings.creation (s : FileSettings) (path : String) : Action :=
  match s.content.or s.contentLines with
  | some content => .write path (Heredoc.written content)
  | none => .run ("touch " ++ path)

/-- The streams of a log, each with where it goes. -/
def LogSettings.targets (s : LogSettings) : String :=
  match s.path with
  | some path => " 1>" ++ path ++ " 2>&1"
  | none =>
    (s.stdout.map (" 1>" ++ ·)).getD "" ++ (s.stderr.map (" 2>" ++ ·)).getD ""

/-- What a resource does, given what is done in its block. -/
inductive Settings.Does (origin : Origin) (inner : List Action) : Settings → List Action → Prop where
  | execute (s : ExecuteSettings) : Does origin inner (.execute s) (s.actions inner)
  | file (s : FileSettings) {mode : List Action} (h : SetsMode (origin.pathOr s.path) s.mode mode) :
    Does origin inner (.file s)
      [.guarded ("test -e " ++ origin.pathOr s.path)
        (inner ++ [s.creation (origin.pathOr s.path)] ++ mode)]
  | directory (s : DirectorySettings) {mode : List Action}
    (h : SetsMode (origin.pathOr s.path) s.mode mode) :
    Does origin inner (.directory s) (inner ++ [.run ("mkdir -p " ++ origin.pathOr s.path)] ++ mode)
  | log (s : LogSettings) : Does origin inner (.log s) (inner ++ [.run ("exec" ++ s.targets)])
  | gemfile (s : GemfileSettings) {path text : String}
    (place : Manifest.StandsAt (origin.pathOr s.path) path)
    (content : Manifest.Describes s.source s.gems text) :
    Does origin inner (.gemfile s)
      [.guarded ("test -e " ++ path) (inner ++ [.write path (Heredoc.written text)])]

/-! ## Trees -/

mutual

/-- The actions that a tree declares, in the order of declaration. -/
inductive Block.Declares : Block → List Action → Prop where
  | children {owner : Option Origin} {helpers : List String} {children : List Child}
    {problem : Option CompileError} {actions : List Action} (h : DeclareAll children actions) :
    Block.Declares ⟨owner, helpers, children, problem⟩ actions

inductive Child.Declares : Child → List Action → Prop where
  | command (text : String) : Child.Declares (.command text) [.run text]
  | echo (origin : Origin) (message : String) : Child.Declares (.echo origin message) [.print message]
  | haltOnFailedCommand (origin : Origin) :
    Child.Declares (.haltOnFailedCommand origin) [.run "set -e"]
  | block {origin : Origin} {settings : Settings} {body : Block} {inner actions : List Action}
    (inside : Block.Declares body inner) (does : settings.Does origin inner actions) :
    Child.Declares (.block origin settings body) actions

inductive DeclareAll : List Child → List Action → Prop where
  | nil : DeclareAll [] []
  | cons {child : Child} {children : List Child} {actions more : List Action}
    (first : Child.Declares child actions) (rest : DeclareAll children more) :
    DeclareAll (child :: children) (actions ++ more)

end

/-! ## At most one sequence of actions -/

lemma SetsMode.unique {path : String} {mode : Option UInt32} {actions others : List Action}
    (h : SetsMode path mode actions) (h' : SetsMode path mode others) : actions = others := by
  cases h with
  | kept => cases h' with | kept => rfl
  | changed hdigits => cases h' with | changed hdigits' => rw [hdigits.unique hdigits']

lemma rdropWhile_append_replicate (text : List Char) (n : Nat) (c : Char) :
    (text ++ List.replicate n c).rdropWhile (· == c) = text.rdropWhile (· == c) := by
  induction n with
  | zero => rw [List.replicate_zero, List.append_nil]
  | succ n ih =>
    rw [List.replicate_succ', ← List.append_assoc,
      List.rdropWhile_concat_pos (fun x => x == c) _ c (beq_self_eq_true c), ih]

/-- A manifest stands in one place only. -/
lemma Manifest.standsAt_iff {directory path : String} :
    StandsAt directory path ↔ path = GemfileSettings.manifestPath directory := by
  have hpath : GemfileSettings.manifestPath directory =
      String.ofList (directory.toList.rdropWhile (· == '/')) ++ "/Gemfile" := rfl
  rw [hpath]
  constructor
  · rintro ⟨base, slashes, rfl, hbase, rfl⟩
    have hbare : base.toList.rdropWhile (· == '/') = base.toList := by
      rw [List.rdropWhile_eq_self_iff]
      intro hne hlast
      exact hbase (by rw [List.getLast?_eq_some_getLast hne, eq_of_beq hlast])
    rw [String.toList_append, String.toList_ofList, rdropWhile_append_replicate, hbare,
      String.ofList_toList]
  · rintro rfl
    have hslashes : directory.toList.rtakeWhile (· == '/') =
        List.replicate (directory.toList.rtakeWhile (· == '/')).length '/' :=
      List.eq_replicate_of_mem fun c hc => by simpa using List.mem_rtakeWhile_imp hc
    refine ⟨_, (directory.toList.rtakeWhile (· == '/')).length, ?_, ?_, rfl⟩
    · rw [← hslashes, ← String.ofList_append, List.rdropWhile_append_rtakeWhile, String.ofList_toList]
    · rw [String.toList_ofList]
      intro hlast
      have hne : directory.toList.rdropWhile (· == '/') ≠ [] := by
        intro hnil
        rw [hnil] at hlast
        exact nomatch hlast
      rw [List.getLast?_eq_some_getLast hne, Option.some.injEq] at hlast
      exact List.rdropWhile_last_not _ _ hne (beq_iff_eq.mpr hlast)

lemma Settings.Does.unique {origin : Origin} {inner : List Action} {settings : Settings}
    {actions others : List Action} (h : settings.Does origin inner actions)
    (h' : settings.Does origin inner others) : actions = others := by
  cases h with
  | execute s => cases h' with | execute => rfl
  | file s hmode => cases h' with | file _ hmode' => rw [hmode.unique hmode']
  | directory s hmode => cases h' with | directory _ hmode' => rw [hmode.unique hmode']
  | log s => cases h' with | log => rfl
  | gemfile s hplace hcontent =>
    cases h' with
    | gemfile _ hplace' hcontent' =>
      obtain rfl := Manifest.standsAt_iff.mp hplace
      obtain rfl := Manifest.standsAt_iff.mp hplace'
      rw [hcontent.unique hcontent']

lemma DeclareAll.unique {children : List Child}
    (hchildren : ∀ child ∈ children, ∀ {actions others}, child.Declares actions →
      child.Declares others → actions = others)
    {actions others : List Action} (h : DeclareAll children actions) (h' : DeclareAll children others) :
    actions = others := by
  induction children generalizing actions others with
  | nil =>
    cases h
    cases h'
    rfl
  | cons child children ih =>
    rw [List.forall_mem_cons] at hchildren
    cases h with
    | cons first rest =>
      cases h' with
      | cons first' rest' => rw [hchildren.1 first first', ih hchildren.2 rest rest']

lemma Child.Declares.unique {child : Child} {actions others : List Action}
    (h : child.Declares actions) (h' : child.Declares others) : actions = others := by
  induction child using Child.induction generalizing actions others with
  | command text =>
    cases h
    cases h'
    rfl
  | echo origin message =>
    cases h
    cases h'
    rfl
  | haltOnFailedCommand origin =>
    cases h
    cases h'
    rfl
  | block origin settings body ih =>
    cases h with
    | block inside does =>
      cases h' with
      | block inside' does' =>
        cases inside with
        | children hall =>
          cases inside' with
          | children hall' =>
            obtain rfl := DeclareAll.unique (fun child hchild => ih child hchild) hall hall'
            exact does.unique does'

lemma Block.Declares.unique {block : Block} {actions others : List Action}
    (h : block.Declares actions) (h' : block.Declares others) : actions = others := by
  cases h with
  | children hall =>
    cases h' with
    | children hall' => exact DeclareAll.unique (fun _ _ => Child.Declares.unique) hall hall'

end SetupRecipe
