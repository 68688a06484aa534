import SetupRecipe.Document.Store
import SetupRecipe.Proofs.Permissions

/-!
# Programs as recipe files

A program that declares resources and sets their attributes can be written as a recipe file, statement
by statement and with every text as a literal. The file declares the tree of the program.
-/

namespace SetupRecipe
open Config (Structure)
open Document (Store Site declareStructure declareStructures)

/-! ## Writing programs -/

def textAssignment (key text : String) : Structure := .assignment key (.string text)

/-- The structure that sets an attribute. Recipe files have no contents by lines. -/
def Attribute.structure? : Attribute String → Option Structure
  | .cwd p => some (textAssignment "cwd" p)
  | .notIf test => some (textAssignment "not_if" test)
  | .creates p => some (textAssignment "creates" p)
  | .path p => some (textAssignment "path" p)
  | .content text => some (textAssignment "content" text)
  | .contentLines _ => none
  | .mode m => some (textAssignment "mode" (Shell.octalDigits m))
  | .stdout p => some (textAssignment "stdout" p)
  | .stderr p => some (textAssignment "stderr" p)
  | .source url => some (textAssignment "source" url)
  | .gem name version =>
    some (.block "gem" [name] ⟨version.toList.map (textAssignment "version")⟩)

namespace Program

/-- The labels of a block; the block of a log has none. -/
def labels? (kind : BlockKind) (label : String) : Option (List String) :=
  if label = "" then some [] else if kind = .log then none else some [label]

mutual

/-- The structure of a statement that is neither about helpers nor a shorthand. -/
def Statement.structure? (node : NodeData) : Statement → Option Structure
  | .echo message => some (textAssignment "echo" (message.eval node ""))
  | .haltOnFailedCommand => some (.block "halt_on_failed_command" [] ⟨[]⟩)
  | .logTo _ => none
  | .block kind label body => do
    let labels ← labels? kind (label.eval node "")
    let structures ← structures? node body
    return .block kind.word labels ⟨structures⟩
  | .command text => some (textAssignment "command" (text.eval node ""))
  | .set setting => (setting.map fun text => text.eval node "").structure?
  | .define _ _ _ => none
  | .call _ _ => none

def structures? (node : NodeData) : List Statement → Option (List Structure)
  | [] => some []
  | statement :: statements => do
    let first ← statement.structure? node
    let rest ← structures? node statements
    return first :: rest

end

end Program

/-! ## Declaring what was written -/

namespace Document

variable (site : Site) (draft : Program.Draft)

lemma declareStructure_text (key text : String) :
    declareStructure site (textAssignment key text) draft =
      site.grant draft (attributeRequest draft.target key (.string text)) := rfl

lemma declareStructure_command {draft : Program.Draft} (h : draft.target = .block .execute)
    (text : String) :
    declareStructure site (textAssignment "command" text) draft = draft.command text := by
  rw [declareStructure_text, h]
  rfl

lemma declareStructure_halt :
    declareStructure site (.block "halt_on_failed_command" [] ⟨[]⟩) draft =
      draft.haltOnFailedCommand := by
  have hopening : opening site draft.target "halt_on_failed_command" [] [] =
      .ok .haltOnFailedCommand := by
    unfold opening
    rw [if_neg fun h => absurd h.2 (by decide)]
    rfl
  rw [declareStructure, hopening]

/-- A block whose label is written as it is. -/
lemma declareStructure_block {kind : BlockKind} {label : String} {labels : List String}
    (h : Program.labels? kind label = some labels) (structures : List Structure) :
    declareStructure site (.block kind.word labels ⟨structures⟩) draft =
      draft.closeBlock (declareStructures site structures (draft.openBlock kind label)) := by
  have hword : kind.word ≠ "gem" := by
    cases kind <;> decide
  have hopening : opening site draft.target kind.word labels structures =
      .ok (.resource kind label []) := by
    unfold opening
    unfold Program.labels? at h
    rw [if_neg fun hgem => hword hgem.2]
    by_cases hlabel : label = ""
    · rw [if_pos hlabel] at h
      obtain rfl := Option.some.inj h
      rw [hlabel]
      cases kind <;> rfl
    · rw [if_neg hlabel] at h
      by_cases hlog : kind = .log
      · rw [if_pos hlog] at h
        exact nomatch h
      · rw [if_neg hlog] at h
        obtain rfl := Option.some.inj h
        cases kind
        case log => exact absurd rfl hlog
        all_goals rfl
  rw [declareStructure, hopening]
  rfl

lemma declareStructure_mode {kind : BlockKind} {draft : Program.Draft}
    (hkind : draft.target = .block kind) {mode : UInt32}
    (hfits : (Attribute.mode mode : Attribute String).fits kind) :
    declareStructure site (textAssignment "mode" (Shell.octalDigits mode)) draft =
      draft.set (.mode mode) := by
  have hmode : modeAttribute (.string (Shell.octalDigits mode)) = .edit (.set (.mode mode)) := by
    simp [modeAttribute, wantMode, wantString, Shell.readMode?_octalDigits, Request.ofExcept, bind,
      Except.bind]
  have hrequest : attributeRequest (.block kind) "mode" (.string (Shell.octalDigits mode)) =
      modeAttribute (.string (Shell.octalDigits mode)) := by
    cases kind with
    | file => rfl
    | directory => rfl
    | _ => exact absurd hfits Bool.false_ne_true
  rw [declareStructure_text, hkind, hrequest, hmode]
  rfl

lemma declareStructure_gem {draft : Program.Draft} (hkind : draft.target = .block .gemfile)
    (name : String) (version : Option String) :
    declareStructure site
        (.block "gem" [name] ⟨version.toList.map (textAssignment "version")⟩) draft =
      draft.set (.gem name version) := by
  have hopening : opening site draft.target "gem" [name]
      (version.toList.map (textAssignment "version")) = .ok (.gem name version) := by
    unfold opening
    rw [if_pos ⟨hkind, rfl⟩]
    cases version <;> rfl
  rw [declareStructure, hopening]

lemma declareStructure_setting {kind : BlockKind} {draft : Program.Draft}
    (hkind : draft.target = .block kind) {setting : Attribute String} (hfits : setting.fits kind)
    {s : Structure} (h : setting.structure? = some s) :
    declareStructure site s draft = draft.set setting := by
  cases setting with
  | contentLines lines => exact nomatch h
  | mode m =>
    obtain rfl := Option.some.inj h
    exact declareStructure_mode site hkind hfits
  | gem name version =>
    obtain rfl := Option.some.inj h
    obtain rfl : kind = .gemfile := of_decide_eq_true hfits
    exact declareStructure_gem site hkind name version
  | path p =>
    obtain rfl := Option.some.inj h
    rw [declareStructure_text, hkind]
    cases kind with
    | execute => exact absurd hfits Bool.false_ne_true
    | _ => rfl
  | _ =>
    obtain rfl := Option.some.inj h
    obtain rfl := of_decide_eq_true hfits
    rw [declareStructure_text, hkind]
    rfl

end Document

/-! ## Blocks stay what they are -/

/-- Drafts with the same node data that take the same attributes. -/
def Program.Draft.Like (a b : Program.Draft) : Prop := a.node = b.node ∧ a.target = b.target

namespace Document

open Program (Draft)

variable {draft : Draft}

lemma like_trans {a b c : Draft} (hab : a.Like b) (hbc : b.Like c) : a.Like c :=
  ⟨hab.1.trans hbc.1, hab.2.trans hbc.2⟩

lemma set_like (draft : Draft) (setting : Attribute String) : (draft.set setting).Like draft := by
  refine ⟨rfl, ?_⟩
  unfold Draft.set Draft.target
  cases draft.resource with
  | none => rfl
  | some resource => simp

lemma closeBlock_like (draft inner : Draft) : (draft.closeBlock inner).Like draft := by
  unfold Draft.closeBlock
  split
  · exact ⟨rfl, rfl⟩
  · exact ⟨rfl, rfl⟩

lemma apply_like (draft : Draft) (edit : Edit) : (edit.apply draft).Like draft := by
  cases edit with
  | echo message => exact ⟨rfl, rfl⟩
  | set setting => exact set_like draft setting
  | command text =>
    change (draft.command text).Like draft
    unfold Draft.command
    split
    · exact ⟨rfl, rfl⟩
    · exact ⟨rfl, rfl⟩

lemma grant_like (site : Site) (draft : Draft) (request : Request) :
    (site.grant draft request).Like draft := by
  have hedits : (request.edits.foldl Edit.apply draft).Like draft := by
    induction request.edits generalizing draft with
    | nil => exact ⟨rfl, rfl⟩
    | cons edit edits ih => exact like_trans (ih (edit.apply draft)) (apply_like draft edit)
  unfold Site.grant
  split
  · exact hedits
  · exact hedits

lemma declareStructure_like (site : Site) (s : Structure) (draft : Draft) :
    (declareStructure site s draft).Like draft := by
  obtain ⟨key, e⟩ | ⟨word, labels, ⟨structures⟩⟩ := s
  · exact grant_like site draft _
  · rw [declareStructure]
    split
    · exact ⟨rfl, rfl⟩
    · exact ⟨rfl, rfl⟩
    · exact set_like draft _
    · exact closeBlock_like draft _

end Document

/-! ## Running and declaring -/

namespace Program

mutual

/-- A statement does what its structure declares. -/
lemma Statement.run_eq_declareStructure (call : Call) (site : Site) (statement : Statement)
    {draft : Draft} (hfits : statement.fits draft.target) {s : Structure}
    (h : statement.structure? draft.node = some s) :
    statement.run call "" draft = some (declareStructure site s draft) := by
  cases statement with
  | echo message =>
    obtain rfl := Option.some.inj h
    rfl
  | haltOnFailedCommand =>
    obtain rfl := Option.some.inj h
    rw [Document.declareStructure_halt]
    rfl
  | logTo path => exact nomatch h
  | define target name body => exact nomatch h
  | call name text => exact nomatch h
  | command text =>
    obtain rfl := Option.some.inj h
    rw [Document.declareStructure_command site (of_decide_eq_true hfits)]
    rfl
  | set setting =>
    cases hkind : draft.target with
    | recipe =>
      rw [hkind] at hfits
      exact nomatch hfits
    | block kind =>
      rw [hkind] at hfits
      have hmap : (setting.map fun text => text.eval draft.node "").fits kind := by
        cases setting <;> exact hfits
      rw [Document.declareStructure_setting site hkind hmap h]
      rfl
  | block kind label body =>
    simp only [Statement.structure?, Option.bind_eq_bind, Option.bind_eq_some_iff] at h
    obtain ⟨labels, hlabels, structures, hstructures, h⟩ := h
    obtain rfl := Option.some.inj h
    have htarget : (draft.openBlock kind (label.eval draft.node "")).target = .block kind := by
      simp [Draft.openBlock, Draft.target]
    have hbody : allFit (draft.openBlock kind (label.eval draft.node "")).target body := by
      rw [htarget]
      exact hfits
    rw [Document.declareStructure_block site draft hlabels, Statement.run,
      runAll_eq_declareStructures call site body hbody hstructures]
    rfl

lemma runAll_eq_declareStructures (call : Call) (site : Site) (program : Program)
    {draft : Draft} (hfits : allFit draft.target program) {structures : List Structure}
    (h : structures? draft.node program = some structures) :
    runAll call "" program draft = some (declareStructures site structures draft) := by
  cases program with
  | nil =>
    obtain rfl := Option.some.inj h
    rfl
  | cons statement statements =>
    simp only [structures?, Option.bind_eq_bind, Option.bind_eq_some_iff] at h
    obtain ⟨first, hfirst, rest, hrest, h⟩ := h
    obtain rfl := Option.some.inj h
    rw [allFit, Bool.and_eq_true] at hfits
    obtain ⟨hnode, htarget⟩ := Document.declareStructure_like site first draft
    rw [← hnode] at hrest
    rw [← htarget] at hfits
    rw [runAll, statement.run_eq_declareStructure call site (htarget ▸ hfits.1) hfirst]
    exact runAll_eq_declareStructures call site statements hfits.2 hrest

end

end Program

/-- A single document is declared structure by structure. -/
lemma Document.Store.declare_single (structures : List Structure) (source : Option String)
    (draft : Program.Draft) :
    (Store.empty.insert ⟨structures⟩ source).declare draft =
      declareStructures (Store.site draft.node source) structures draft := by
  have hlocated : (Store.empty.insert ⟨structures⟩ source).located =
      structures.map fun s => (source, s) := by
    simp [Store.located, Store.insert, Store.empty]
  unfold Store.declare
  rw [hlocated, List.foldl_map]
  clear hlocated
  induction structures generalizing draft with
  | nil => rfl
  | cons s structures ih =>
    have hrest := ih (declareStructure (Store.site draft.node source) s draft)
    rw [(declareStructure_like (Store.site draft.node source) s draft).1] at hrest
    exact hrest

/-- A program and the recipe file that it is written as declare the same tree, so that they have the
same script or fail with the same error. -/
theorem Program.evaluate_eq_evaluate_structures {program : Program} {node : NodeData}
    {structures : List Structure} (hfits : allFit .recipe program)
    (h : structures? node program = some structures) (source : Option String) :
    let file := Store.empty.insert ⟨structures⟩ source
    (∀ depth, program.evaluate depth node = some (file.evaluate node)) ∧
      ((Recipe.ofProgram program).setNode node).toScript.1 =
        (file.toRecipe.setNode node).toScript.1 := by
  intro file
  have htree : ∀ depth, program.evaluate depth node = some (file.evaluate node) := by
    intro depth
    have hrun : runAll (callWithin depth) "" program (.recipe node) =
        some (declareStructures (Store.site node source) structures (.recipe node)) := by
      apply runAll_eq_declareStructures
      · exact hfits
      · exact h
    rw [Program.evaluate, run, hrun, Store.evaluate, Document.Store.declare_single]
    rfl
  refine ⟨htree, ?_⟩
  change ((program.evaluate defaultDepth node).getD _).script = (file.evaluate node).script
  rw [htree defaultDepth]
  rfl

/-- Every kind of block, some of them nested. -/
def Program.setUpServer : Program :=
  [.haltOnFailedCommand,
    .block .log (.text "") [.set (.path (.text "/tmp/setup.log"))],
    .block .file (.text "/srv/app/marker")
      [.set (.mode 0o600), .block .directory (.text "/srv/app") [.set (.mode 0o755)]],
    .block .gemfile (.text "/srv/app")
      [.echo (.text "It's here"), .set (.gem (.text "rake") (some (.text "~> 13.0"))),
        .set (.source (.text "local")), .set (.gem (.text "rack") none)],
    .block .execute (.text "") [.set (.cwd (.text "/srv/app")), .command (.text "ls"),
      .set (.notIf (.text "test -d bin"))]]

theorem Program.evaluate_eq_evaluate_structures_setUpServer :
    allFit .recipe setUpServer ∧ ∃ structures, structures? .empty setUpServer = some structures ∧
      ∀ depth, setUpServer.evaluate depth .empty =
        some ((Store.empty.insert ⟨structures⟩ none).evaluate .empty) :=
  ⟨rfl, _, rfl, (evaluate_eq_evaluate_structures rfl rfl none).1⟩

end SetupRecipe
