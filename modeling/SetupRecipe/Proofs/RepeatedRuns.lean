import Mathlib.Data.List.TakeWhile
import SetupRecipe.Proofs.CommandWords
import SetupRecipe.Proofs.ReadBack
import SetupRecipe.Proofs.Violations

/-!
# Setup scripts run repeatedly

A tree of files, directories, gemfiles, echoes and switches compiles to a script that makes sure of
paths: what is missing is created, and what exists is left alone. Such a script settles in one run. It
removes nothing, and once everything that it makes sure of exists, it changes nothing anymore.
-/

namespace SetupRecipe.Shell

/-! ## Running scripts -/

/-- What can exist at a path. -/
inductive Entry where
  | directory
  | file (content : String)
deriving DecidableEq, Repr

abbrev Disk := String → Option Entry

namespace Disk

def put (disk : Disk) (path : String) (entry : Entry) : Disk :=
  fun other => if other = path then some entry else disk other

/-- Puts an entry where nothing exists. -/
def create (disk : Disk) (path : String) (entry : Entry) : Disk :=
  if (disk path).isSome then disk else disk.put path entry

end Disk

/-- Runs a command. Permissions and switches do not matter for what exists. -/
def runCommand? (command : String) (disk : Disk) : Option Disk :=
  match words command with
  | ["touch", path] => some (disk.create path (.file ""))
  | ["mkdir", "-p", path] => some (disk.create path .directory)
  | ["chmod", _, _] => some disk
  | ["set", "-e"] => some disk
  | _ => none

def testHolds? (test : String) (disk : Disk) : Option Bool :=
  match words test with
  | ["test", "-e", path] => some (disk path).isSome
  | _ => none

mutual

/-- Does what an action says; there is no result if that is not known. -/
def Action.run? : Action → Disk → Option Disk
  | .run command, disk => runCommand? command disk
  | .print _, disk => some disk
  | .write path content, disk => some (disk.put path (.file content))
  | .guarded test body, disk =>
    match testHolds? test disk with
    | some true => some disk
    | some false => runAll? body disk
    | none => none

def runAll? : List Action → Disk → Option Disk
  | [], disk => some disk
  | action :: actions, disk => (action.run? disk).bind (runAll? actions)

end

def runScript? (script : String) (disk : Disk) : Option Disk :=
  (readScript? script).bind fun actions => runAll? actions disk

lemma runAll?_append (first second : List Action) (disk : Disk) :
    runAll? (first ++ second) disk = (runAll? first disk).bind (runAll? second) := by
  induction first generalizing disk with
  | nil => rfl
  | cons action first ih =>
    rw [List.cons_append, runAll?, runAll?, Option.bind_assoc]
    congr
    funext next
    exact ih next

lemma runAll?_single (action : Action) (disk : Disk) : runAll? [action] disk = action.run? disk := by
  rw [runAll?]
  cases action.run? disk <;> rfl

/-! ## Commands that set up paths -/

section Commands

variable {path : String} (hpath : ' ' ∉ path.toList) (disk : Disk)
include hpath

lemma runCommand?_touch :
    runCommand? ("touch " ++ path) disk = some (disk.create path (.file "")) := by
  have hverb : "touch " = "touch" ++ " " := by decide
  rw [runCommand?, hverb, words_two (by decide) hpath]
  rfl

lemma runCommand?_mkdir :
    runCommand? ("mkdir -p " ++ path) disk = some (disk.create path .directory) := by
  have hverb : "mkdir -p " = "mkdir" ++ " " ++ "-p" ++ " " := by decide
  rw [runCommand?, hverb, words_three (by decide) (by decide) hpath]
  rfl

lemma runCommand?_chmod {digits : String} (hdigits : ' ' ∉ digits.toList) :
    runCommand? ("chmod " ++ digits ++ " " ++ path) disk = some disk := by
  have hverb : "chmod " = "chmod" ++ " " := by decide
  rw [runCommand?, hverb, words_three (by decide) hdigits hpath]
  rfl

lemma testHolds?_existsTest : testHolds? (existsTest path) disk = some (disk path).isSome := by
  have hverb : "test -e " = "test" ++ " " ++ "-e" ++ " " := by decide
  rw [testHolds?, existsTest, hverb, words_three (by decide) (by decide) hpath]
  rfl

end Commands

lemma runCommand?_halt (disk : Disk) : runCommand? "set -e" disk = some disk := by
  have hverb : "set -e" = "set" ++ " " ++ "-e" := by decide
  rw [runCommand?, hverb, words_two (by decide) (by decide)]
  rfl

/-! ## Settling -/

/-- What exists keeps existing. -/
def Disk.Keeps (disk later : Disk) : Prop := ∀ path, (disk path).isSome → (later path).isSome

namespace Disk.Keeps

lemma refl (disk : Disk) : disk.Keeps disk := fun _ h => h

lemma trans {a b c : Disk} (hab : a.Keeps b) (hbc : b.Keeps c) : a.Keeps c :=
  fun path h => hbc path (hab path h)

lemma put (disk : Disk) (path : String) (entry : Entry) : disk.Keeps (disk.put path entry) := by
  intro other h
  unfold Disk.put
  split
  · rfl
  · exact h

lemma create (disk : Disk) (path : String) (entry : Entry) :
    disk.Keeps (disk.create path entry) := by
  unfold Disk.create
  split
  · exact refl disk
  · exact put disk path entry

end Disk.Keeps

lemma Disk.isSome_put (disk : Disk) (path : String) (entry : Entry) :
    (disk.put path entry path).isSome := by
  simp [put]

lemma Disk.isSome_create (disk : Disk) (path : String) (entry : Entry) :
    (disk.create path entry path).isSome := by
  unfold create
  split
  · next h => exact h
  · exact disk.isSome_put path entry

/-- Actions that can be run, remove nothing and make sure that some path exists. -/
def Ensures (actions : List Action) (path : String) : Prop :=
  ∀ disk, ∃ after, runAll? actions disk = some after ∧ disk.Keeps after ∧ (after path).isSome

/-- Actions that can be run and remove nothing, and that change nothing when they are run again, no
matter what else exists by then. -/
def Settles (actions : List Action) : Prop :=
  ∀ disk, ∃ after, runAll? actions disk = some after ∧ disk.Keeps after ∧
    ∀ later, after.Keeps later → runAll? actions later = some later

namespace Settles

lemma nil : Settles [] := fun disk => ⟨disk, rfl, .refl disk, fun _ _ => rfl⟩

lemma idle {action : Action} (h : ∀ disk, action.run? disk = some disk) : Settles [action] := by
  intro disk
  refine ⟨disk, ?_, .refl disk, fun later _ => ?_⟩
  · rw [runAll?_single, h]
  · rw [runAll?_single, h]

lemma append {first second : List Action} (hfirst : Settles first) (hsecond : Settles second) :
    Settles (first ++ second) := by
  intro disk
  obtain ⟨middle, hmiddle, hkeeps, hagain⟩ := hfirst disk
  obtain ⟨after, hafter, hkeeps', hagain'⟩ := hsecond middle
  refine ⟨after, ?_, hkeeps.trans hkeeps', fun later hlater => ?_⟩
  · rw [runAll?_append, hmiddle, Option.bind_some, hafter]
  · -- what the second actions left also has what the first ones made sure of
    rw [runAll?_append, hagain later (hkeeps'.trans hlater), Option.bind_some, hagain' later hlater]

/-- A command that creates something where nothing exists. -/
lemma create {command path : String} {entry : Entry}
    (h : ∀ disk, runCommand? command disk = some (disk.create path entry)) :
    Settles [.run command] := by
  intro disk
  refine ⟨disk.create path entry, ?_, .create disk path entry, fun later hlater => ?_⟩
  · rw [runAll?_single, Action.run?, h]
  · have hexists := hlater path (disk.isSome_create path entry)
    rw [runAll?_single, Action.run?, h, Disk.create, if_pos hexists]

end Settles

namespace Ensures

variable {path : String}

lemma create {command : String} {entry : Entry}
    (h : ∀ disk, runCommand? command disk = some (disk.create path entry)) :
    Ensures [.run command] path := by
  intro disk
  refine ⟨disk.create path entry, ?_, .create disk path entry, disk.isSome_create path entry⟩
  rw [runAll?_single, Action.run?, h]

lemma write (path content : String) : Ensures [.write path content] path := by
  intro disk
  exact ⟨disk.put path (.file content), runAll?_single _ disk, .put disk path _,
    disk.isSome_put path _⟩

lemma append_left {first second : List Action} (hfirst : Settles first)
    (hsecond : Ensures second path) : Ensures (first ++ second) path := by
  intro disk
  obtain ⟨middle, hmiddle, hkeeps, -⟩ := hfirst disk
  obtain ⟨after, hafter, hkeeps', hexists⟩ := hsecond middle
  refine ⟨after, ?_, hkeeps.trans hkeeps', hexists⟩
  rw [runAll?_append, hmiddle, Option.bind_some, hafter]

lemma append_right {first second : List Action} (hfirst : Ensures first path)
    (hsecond : Settles second) : Ensures (first ++ second) path := by
  intro disk
  obtain ⟨middle, hmiddle, hkeeps, hexists⟩ := hfirst disk
  obtain ⟨after, hafter, hkeeps', -⟩ := hsecond middle
  refine ⟨after, ?_, hkeeps.trans hkeeps', hkeeps' path hexists⟩
  rw [runAll?_append, hmiddle, Option.bind_some, hafter]

/-- What is done until a path exists is not done again. -/
lemma settles_guarded {test : String} {body : List Action} (hbody : Ensures body path)
    (htest : ∀ disk : Disk, testHolds? test disk = some (disk path).isSome) :
    Settles [.guarded test body] := by
  have hskip : ∀ disk : Disk, (disk path).isSome →
      runAll? [.guarded test body] disk = some disk := by
    intro disk hexists
    rw [runAll?_single, Action.run?, htest, hexists]
  intro disk
  cases hexists : (disk path).isSome with
  | true => exact ⟨disk, hskip disk hexists, .refl disk, fun later hlater =>
      hskip later (hlater path hexists)⟩
  | false =>
    obtain ⟨after, hafter, hkeeps, hcreated⟩ := hbody disk
    refine ⟨after, ?_, hkeeps, fun later hlater => hskip later (hlater path hcreated)⟩
    rw [runAll?_single, Action.run?, htest, hexists]
    exact hafter

end Ensures

end SetupRecipe.Shell

namespace SetupRecipe
open Shell

/-! ## Trees that set up paths -/

/-- The path that a resource makes sure of: that of its file, directory or manifest. -/
def Settings.setUpPath? (origin : Origin) : Settings → Option String
  | .file s => some (origin.pathOr s.path)
  | .directory s => some (origin.pathOr s.path)
  | .gemfile s => some (GemfileSettings.manifestPath (origin.pathOr s.path))
  | .execute _ => none
  | .log _ => none

/-- Whether a declaration sets up a file, a directory or a gemfile, or is an echo or a switch. -/
def Child.setsUp : Child → Bool
  | .command _ => false
  | .echo _ _ => true
  | .haltOnFailedCommand _ => true
  | .block origin settings _ => (settings.setUpPath? origin).any isPathWord

lemma Child.setsUp_block {origin : Origin} {settings : Settings} {body : Block}
    (h : (Child.block origin settings body).setsUp) :
    ∃ path, settings.setUpPath? origin = some path ∧ isPathWord path := by
  rwa [setsUp, Option.any_eq_true] at h

/-! ### They are readable -/

/-- A manifest's path holds its directory but for the slashes at the end. -/
lemma GemfileSettings.mem_manifestPath {directory : String} {c : Char}
    (h : c ∈ directory.toList) : c = '/' ∨ c ∈ (manifestPath directory).toList := by
  have hparts := List.takeWhile_append_dropWhile (p := (· == '/')) (l := directory.toList.reverse)
  rw [← List.mem_reverse, ← hparts, List.mem_append] at h
  rcases h with hslash | hkept
  · left
    simpa using List.mem_takeWhile_imp hslash
  · right
    rw [manifestPath, String.toList_append, String.toList_ofList, List.mem_append, List.mem_reverse]
    exact Or.inl hkept

lemma Settings.isBare_of_setUpPath? {origin : Origin} {settings : Settings} {path : String}
    (hpath : settings.setUpPath? origin = some path) (hword : isPathWord path) :
    ∀ text ∈ settings.rawTexts origin, IsBare text := by
  have hbare := isBare_of_isPathWord hword
  cases settings with
  | execute s => exact nomatch hpath
  | log s => exact nomatch hpath
  | file s =>
    obtain rfl := Option.some.inj hpath
    simpa [rawTexts] using hbare
  | directory s =>
    obtain rfl := Option.some.inj hpath
    simpa [rawTexts] using hbare
  | gemfile s =>
    obtain rfl := Option.some.inj hpath
    simp only [rawTexts, List.mem_singleton, forall_eq]
    intro c hc
    rcases GemfileSettings.mem_manifestPath hc with rfl | hmem
    · decide
    · exact hbare c hmem

lemma Block.readable_of_setsUp {root : Block} (h : root.every Child.setsUp) : root.Readable := by
  rw [readable_iff]
  refine every_induction ?command ?echo ?haltOnFailedCommand ?resource h
  case command => exact fun text htest => nomatch htest
  case echo => exact fun origin message htest => trivial
  case haltOnFailedCommand => exact fun origin htest => trivial
  case resource =>
    intro origin settings body htest ih
    obtain ⟨path, hpath, hword⟩ := Child.setsUp_block htest
    exact ⟨Settings.isBare_of_setUpPath? hpath hword, readable_iff.mpr ih⟩

/-! ### They settle -/

lemma SetsMode.settles {path : String} (hpath : ' ' ∉ path.toList) {mode : Option UInt32}
    {actions : List Action} (h : SetsMode path mode actions) : Settles actions := by
  cases h with
  | kept => exact .nil
  | @changed _ digits hdigits =>
    have hblank : ' ' ∉ digits.toList := fun hmem =>
      absurd (hdigits.octal.isDigit ' ' hmem) (by decide)
    exact .idle fun disk => runCommand?_chmod hpath disk hblank

lemma FileSettings.creation_ensures {path : String} (hpath : ' ' ∉ path.toList) (s : FileSettings) :
    Ensures [s.creation path] path := by
  unfold creation
  split
  · exact .write path _
  · exact .create fun disk => runCommand?_touch hpath disk

lemma Settings.Does.settles {origin : Origin} {settings : Settings} {path : String}
    (hpath : settings.setUpPath? origin = some path) (hword : isPathWord path)
    {inner actions : List Action} (hinner : Settles inner) (h : settings.Does origin inner actions) :
    Settles actions := by
  have hblank := blank_not_mem_of_isPathWord hword
  cases h with
  | execute s => exact nomatch hpath
  | log s => exact nomatch hpath
  | file s hmode =>
    obtain rfl := Option.some.inj hpath
    have hcreation := (s.creation_ensures hblank).append_left hinner
    have hbody := hcreation.append_right (hmode.settles hblank)
    exact hbody.settles_guarded fun disk => testHolds?_existsTest hblank disk
  | directory s hmode =>
    obtain rfl := Option.some.inj hpath
    exact (hinner.append (.create fun disk => runCommand?_mkdir hblank disk)).append
      (hmode.settles hblank)
  | @gemfile s place text hplace hcontent =>
    obtain rfl := Manifest.standsAt_iff.mp hplace
    obtain rfl := Option.some.inj hpath
    have hwrite := Ensures.write (GemfileSettings.manifestPath (origin.pathOr s.path))
      (Heredoc.written text)
    exact (hwrite.append_left hinner).settles_guarded fun disk => testHolds?_existsTest hblank disk

lemma DeclareAll.settles {children : List Child}
    (hchildren : ∀ child ∈ children, ∀ {actions}, child.Declares actions → Settles actions)
    {actions : List Action} (h : DeclareAll children actions) : Settles actions := by
  induction children generalizing actions with
  | nil =>
    cases h
    exact .nil
  | cons child children ih =>
    rw [List.forall_mem_cons] at hchildren
    cases h with
    | cons first rest => exact (hchildren.1 first).append (ih hchildren.2 rest)

lemma Block.Declares.settles {root : Block} (hsetsUp : root.every Child.setsUp)
    {actions : List Action} (h : root.Declares actions) : Settles actions := by
  cases h with
  | children hall =>
    refine DeclareAll.settles (Block.every_induction ?command ?echo ?haltOnFailedCommand ?resource
      hsetsUp) hall
    case command => exact fun text htest => nomatch htest
    case echo =>
      intro origin message _ actions h
      cases h
      exact .idle fun disk => rfl
    case haltOnFailedCommand =>
      intro origin _ actions h
      cases h
      exact .idle runCommand?_halt
    case resource =>
      intro origin settings body htest ih actions h
      obtain ⟨path, hpath, hword⟩ := Child.setsUp_block htest
      cases h with
      | block inside does =>
        cases inside with
        | children hinner => exact does.settles hpath hword (hinner.settles ih)

/-! ## Scripts that set up paths -/

/-- A script that sets up paths always runs, and a second run leaves everything as the first run left
it. -/
theorem runScript?_twice {root : Block} {script : String} (hsetsUp : root.every Child.setsUp)
    (h : root.script = .ok script) (disk : Disk) :
    ∃ after, runScript? script disk = some after ∧ runScript? script after = some after := by
  obtain ⟨actions, hdeclares, hread⟩ :=
    Block.readScript?_of_readable (Block.readable_of_setsUp hsetsUp) h
  obtain ⟨after, hafter, -, hagain⟩ := hdeclares.settles hsetsUp disk
  -- the second run starts from the very disk that the first one left
  unfold runScript?
  rw [hread]
  exact ⟨after, hafter, hagain after (.refl after)⟩

/-- A directory with a file and a gemfile in it, of which the file is declared once more. -/
def setUpSite : Block :=
  ⟨none, [], [
    .haltOnFailedCommand ⟨.haltOnFailedCommand, "", 0⟩,
    .block ⟨.block .directory, "site", 1⟩ (.directory ⟨some "/srv/site", some 0o755⟩)
      ⟨none, [], [
        .block ⟨.block .file, "/srv/site/motd", 0⟩ (.file ⟨none, some "Hello\n", none, none⟩)
          ⟨none, [], [.echo ⟨.echo, "", 0⟩ "It's new"], none⟩,
        .block ⟨.block .gemfile, "/srv/site/", 1⟩ (.gemfile ⟨none, [⟨"rails", none⟩], none⟩)
          ⟨none, [], [], none⟩], none⟩,
    .block ⟨.block .file, "/srv/site/motd", 2⟩ (.file ⟨none, none, none, some 0o644⟩)
      ⟨none, [], [], none⟩], none⟩

theorem runScript?_twice_setUpSite :
    setUpSite.every Child.setsUp ∧ ∃ script, setUpSite.script = .ok script ∧
      ∃ after, runScript? script (fun _ => none) = some after ∧
        runScript? script after = some after := by
  have hmanifest : Manifest.text none [⟨"rails", none⟩] = "gem \"rails\"\n" := by
    rw [Manifest.text_singleton]
    rfl
  have hwalk : setUpSite.walk = reportTagLine ⟨.block .gemfile, "/srv/site/", 1⟩
      (some (Manifest.text none [⟨"rails", none⟩])) ++ [] ++ [] ++ [] := rfl
  have hscript : ∃ script, setUpSite.script = .ok script := by
    apply Block.exists_script_of_walk_eq_nil
    rw [hwalk, hmanifest]
    rfl
  obtain ⟨script, hscript⟩ := hscript
  exact ⟨rfl, script, hscript, runScript?_twice rfl hscript fun _ => none⟩

end SetupRecipe
