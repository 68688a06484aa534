import SetupRecipe.Proofs.RefusalReports

/-!
# Split documents

How the structures of a recipe are spread over documents does not matter: all root structures are
declared on the same block, one after the other, with the same variables. Only the location in the
report of a refused structure tells which document it came from. Documents can also be declared in
several goes.
-/

namespace SetupRecipe

/-! ## Trees without locations -/

/-- The error without the place where a refused structure came from. -/
def CompileError.unlocated : CompileError → CompileError
  | .invalidDeclaration _ reason => .invalidDeclaration "" reason
  | error => error

/-- Errors that agree without locations are equal or refuse for the same reason. -/
lemma CompileError.eq_of_unlocated_eq {error other : CompileError}
    (h : error.unlocated = other.unlocated) :
    error = other ∨ ∃ location place reason,
      error = .invalidDeclaration location reason ∧ other = .invalidDeclaration place reason := by
  cases error with
  | invalidDeclaration location reason =>
    cases other with
    | invalidDeclaration place =>
      obtain ⟨-, rfl⟩ := CompileError.invalidDeclaration.inj h
      exact .inr ⟨location, place, reason, rfl, rfl⟩
    | _ => exact nomatch h
  | _ =>
    cases other with
    | invalidDeclaration => exact nomatch h
    | _ => exact .inl h

mutual

/-- The tree without the locations in its problems. -/
def Block.unlocated : Block → Block
  | ⟨owner, helpers, children, problem⟩ =>
    ⟨owner, helpers, unlocatedAll children, problem.map CompileError.unlocated⟩

def Child.unlocated : Child → Child
  | .command text => .command text
  | .echo origin message => .echo origin message
  | .haltOnFailedCommand origin => .haltOnFailedCommand origin
  | .block origin settings body => .block origin settings body.unlocated

def unlocatedAll : List Child → List Child
  | [] => []
  | child :: children => child.unlocated :: unlocatedAll children

end

lemma unlocatedAll_append (children more : List Child) :
    unlocatedAll (children ++ more) = unlocatedAll children ++ unlocatedAll more := by
  induction children with
  | nil => rfl
  | cons child children ih => rw [List.cons_append, unlocatedAll, ih, unlocatedAll, List.cons_append]

@[simp] lemma Child.origin?_unlocated (child : Child) : child.unlocated.origin? = child.origin? := by
  cases child <;> rfl

@[simp] lemma origins_unlocatedAll (children : List Child) :
    (unlocatedAll children).filterMap Child.origin? = children.filterMap Child.origin? := by
  induction children with
  | nil => rfl
  | cons child children ih => simp [unlocatedAll, List.filterMap_cons, ih]

lemma Block.hasDeclarations_unlocated (block : Block) :
    block.unlocated.hasDeclarations = block.hasDeclarations := by
  obtain ⟨owner, helpers, children, problem⟩ := block
  simp [unlocated, hasDeclarations, resources]

/-! ## Rendering without locations -/

section

variable {ε α β : Type}

lemma mapError_bind (g : ε → ε) (x : Except ε α) (f : α → Except ε β) :
    (x >>= f).mapError g = x.mapError g >>= fun a => (f a).mapError g := by
  cases x <;> rfl

lemma mapError_map (g : ε → ε) (f : α → β) (x : Except ε α) :
    (x.map f).mapError g = (x.mapError g).map f := by
  cases x <;> rfl

lemma mapError_pure (g : ε → ε) (a : α) : (pure a : Except ε α).mapError g = pure a := rfl

end

open Shell (Fragment)

section Resources

variable (origin : Origin)

lemma requiredPath_unlocated (path : Option String) :
    (requiredPath origin path).mapError CompileError.unlocated = requiredPath origin path := by
  unfold requiredPath
  cases path with
  | some path => rfl
  | none =>
    simp only
    split <;> rfl

lemma writeFile_unlocated (path content : String) :
    (writeFile origin path content).mapError CompileError.unlocated =
      writeFile origin path content := by
  unfold writeFile
  split <;> rfl

lemma changeMode_unlocated (path : String) (mode : Option UInt32) :
    (changeMode origin path mode).mapError CompileError.unlocated = changeMode origin path mode := by
  unfold changeMode
  cases mode with
  | none => rfl
  | some mode =>
    simp only
    split <;> rfl

lemma FileSettings.declaredContent_unlocated (s : FileSettings) (declares : Bool) :
    (s.declaredContent origin declares).mapError CompileError.unlocated =
      s.declaredContent origin declares := by
  unfold declaredContent
  cases s.content <;> cases s.contentLines <;> cases declares <;> rfl

lemma FileSettings.create_unlocated (path : String) (content : Option String) :
    (create origin path content).mapError CompileError.unlocated = create origin path content := by
  cases content with
  | none => rfl
  | some content => exact writeFile_unlocated origin path content

lemma LogSettings.redirection_unlocated (s : LogSettings) :
    (s.redirection origin).mapError CompileError.unlocated = s.redirection origin := by
  unfold redirection
  cases s.path <;> cases s.stdout <;> cases s.stderr <;> rfl

lemma Settings.render_unlocated (declares : Bool) (body : Except CompileError Fragment)
    (settings : Settings) :
    settings.render origin declares (body.mapError CompileError.unlocated) =
      (settings.render origin declares body).mapError CompileError.unlocated := by
  cases settings with
  | execute s =>
    simp only [render, ExecuteSettings.render, mapError_bind]
    cases s.guard? <;> rfl
  | file s =>
    simp only [render, FileSettings.render, mapError_bind, requiredPath_unlocated,
      FileSettings.declaredContent_unlocated, FileSettings.create_unlocated, changeMode_unlocated,
      mapError_pure]
  | directory s =>
    simp only [render, DirectorySettings.render, mapError_bind, requiredPath_unlocated,
      changeMode_unlocated, mapError_pure]
  | log s =>
    simp only [render, LogSettings.render, mapError_bind, LogSettings.redirection_unlocated,
      mapError_pure]
  | gemfile s =>
    simp only [render, GemfileSettings.render, mapError_bind, requiredPath_unlocated]
    cases !s.gems.isEmpty && declares with
    | true => rfl
    | false =>
      simp only [Bool.false_eq_true, if_false, mapError_bind, writeFile_unlocated, mapError_pure]

end Resources

mutual

lemma Block.fragments_unlocated (block : Block) :
    block.unlocated.fragments = block.fragments.mapError CompileError.unlocated := by
  obtain ⟨owner, helpers, children, problem⟩ := block
  cases problem with
  | some error => rfl
  | none => exact childFragments_unlocated children

lemma Child.render_unlocated (child : Child) :
    child.unlocated.render = child.render.mapError CompileError.unlocated := by
  cases child with
  | command text => rfl
  | echo origin message => rfl
  | haltOnFailedCommand origin => rfl
  | block origin settings body =>
    rw [Child.unlocated, Child.render, Child.render, body.hasDeclarations_unlocated,
      body.fragments_unlocated, ← mapError_map, settings.render_unlocated]

lemma childFragments_unlocated (children : List Child) :
    childFragments (unlocatedAll children) =
      (childFragments children).mapError CompileError.unlocated := by
  cases children with
  | nil => rfl
  | cons child children =>
    simp only [unlocatedAll, childFragments, child.render_unlocated, childFragments_unlocated children,
      mapError_bind, mapError_pure]

end

lemma Block.script_unlocated (block : Block) :
    block.unlocated.script = block.script.mapError CompileError.unlocated := by
  rw [script, script, block.fragments_unlocated, mapError_map]

/-! ## Declaring without locations -/

namespace Program.Draft

/-- The draft without the locations in its problems. -/
def unlocated (draft : Draft) : Draft :=
  { draft with
    children := unlocatedAll draft.children
    problem := draft.problem.map CompileError.unlocated }

variable (draft : Draft)

lemma toBlock_unlocated : draft.unlocated.toBlock = draft.toBlock.unlocated := rfl

lemma push_unlocated (child : Child) :
    (draft.push child).unlocated = draft.unlocated.push child.unlocated := by
  simp only [unlocated, push, unlocatedAll_append]
  rfl

lemma nextOrigin_unlocated (kind : ResourceKind) (label : String) :
    draft.unlocated.nextOrigin kind label = draft.nextOrigin kind label := by
  simp [nextOrigin, unlocated]

lemma echo_unlocated (message : String) :
    (draft.echo message).unlocated = draft.unlocated.echo message := by
  rw [echo, push_unlocated, echo, nextOrigin_unlocated]
  rfl

lemma haltOnFailedCommand_unlocated :
    draft.haltOnFailedCommand.unlocated = draft.unlocated.haltOnFailedCommand := by
  rw [haltOnFailedCommand, push_unlocated, haltOnFailedCommand, nextOrigin_unlocated]
  rfl

lemma command_unlocated (text : String) :
    (draft.command text).unlocated = draft.unlocated.command text := by
  have htarget : draft.unlocated.target = draft.target := rfl
  unfold command
  rw [htarget]
  by_cases h : draft.target = .block .execute
  · rw [if_pos h, if_pos h, push_unlocated]
    rfl
  · rw [if_neg h, if_neg h]

lemma set_unlocated (setting : Attribute String) :
    (draft.set setting).unlocated = draft.unlocated.set setting := rfl

lemma defer_unlocated (error : CompileError) :
    (draft.defer error).unlocated = draft.unlocated.defer error.unlocated := by
  simp only [unlocated, defer]
  cases draft.problem <;> rfl

/-- A block knows of its surroundings no problem, and so no location. -/
lemma openBlock_unlocated (kind : BlockKind) (label : String) :
    (draft.openBlock kind label).unlocated = draft.unlocated.openBlock kind label := by
  rw [openBlock, openBlock, nextOrigin_unlocated]
  rfl

lemma closeBlock_unlocated (inner : Draft) :
    (draft.closeBlock inner).unlocated = draft.unlocated.closeBlock inner.unlocated := by
  have hresource : inner.unlocated.resource = inner.resource := rfl
  unfold closeBlock
  rw [hresource]
  cases inner.resource with
  | none => rfl
  | some resource => exact push_unlocated draft _

end Program.Draft

namespace Document

open Config (Structure Body)
open Program (Draft)

def Site.unlocated (site : Site) : Site := { site with location := "" }

variable (site : Site) (draft : Draft)

lemma apply_unlocated (edit : Edit) :
    (edit.apply draft).unlocated = edit.apply draft.unlocated := by
  cases edit with
  | echo message => exact draft.echo_unlocated message
  | command text => exact draft.command_unlocated text
  | set setting => exact draft.set_unlocated setting

lemma grant_unlocated (request : Request) :
    (site.grant draft request).unlocated = site.unlocated.grant draft.unlocated request := by
  have hedits : ∀ edits : List Edit, (edits.foldl Edit.apply draft).unlocated =
      edits.foldl Edit.apply draft.unlocated := by
    intro edits
    induction edits generalizing draft with
    | nil => rfl
    | cons edit edits ih => rw [List.foldl_cons, ih, apply_unlocated, List.foldl_cons]
  unfold Site.grant
  cases request.refusal with
  | none => exact hedits request.edits
  | some refusal =>
    simp only [Site.refuse, Draft.defer_unlocated, hedits]
    rfl

/-- What a block declares does not depend on where it came from. -/
lemma opening_unlocated (target : Program.Target) (word : String) (labels : List String)
    (structures : List Structure) :
    opening site.unlocated target word labels structures =
      opening site target word labels structures := by
  have hversion : ∀ version, gemVersion site.unlocated structures version =
      gemVersion site structures version := by
    induction structures with
    | nil => exact fun _ => rfl
    | cons s structures ih =>
      intro version
      cases s with
      | block word labels body => exact ih version
      | assignment key e => simp only [gemVersion, ih]; rfl
  simp only [opening, gemOpening, hversion]

mutual

lemma declareStructure_unlocated (s : Structure) (draft : Draft) :
    (declareStructure site s draft).unlocated =
      declareStructure site.unlocated s draft.unlocated := by
  obtain ⟨key, e⟩ | ⟨word, labels, ⟨structures⟩⟩ := s
  · exact grant_unlocated site draft _
  · have htarget : draft.unlocated.target = draft.target := rfl
    rw [declareStructure, declareStructure, opening_unlocated, htarget]
    cases opening site draft.target word labels structures with
    | error refusal => exact draft.defer_unlocated _
    | ok opened =>
      cases opened with
      | haltOnFailedCommand => exact draft.haltOnFailedCommand_unlocated
      | gem name version => exact draft.set_unlocated _
      | resource kind label preset =>
        have hpreset : (preset.foldl Draft.set (draft.openBlock kind label)).unlocated =
            preset.foldl Draft.set (draft.unlocated.openBlock kind label) := by
          rw [← draft.openBlock_unlocated]
          generalize draft.openBlock kind label = inner
          induction preset generalizing inner with
          | nil => rfl
          | cons setting preset ih => exact ih (inner.set setting)
        simp only [Draft.closeBlock_unlocated, declareStructures_unlocated structures, hpreset]

lemma declareStructures_unlocated (structures : List Structure) (draft : Draft) :
    (declareStructures site structures draft).unlocated =
      declareStructures site.unlocated structures draft.unlocated := by
  cases structures with
  | nil => rfl
  | cons s structures =>
    rw [declareStructures, declareStructures, declareStructures_unlocated structures,
      declareStructure_unlocated s]

end

namespace Store

/-- The root structures of documents, whatever document they stand in. -/
def structuresOf (documents : List (Option String × Body)) : List Structure :=
  documents.flatMap fun document => document.2.structures

/-- The same script, or the same error up to the location of a refused structure. -/
inductive SameButLocation : Except CompileError String → Except CompileError String → Prop where
  | script (text : String) : SameButLocation (.ok text) (.ok text)
  | error (error : CompileError) : SameButLocation (.error error) (.error error)
  | refused (location other reason : String) :
    SameButLocation (.error (.invalidDeclaration location reason))
      (.error (.invalidDeclaration other reason))

lemma map_snd_rootsOf (documents : List (Option String × Body)) :
    (rootsOf documents).map Prod.snd = structuresOf documents := by
  simp [rootsOf, structuresOf, List.map_flatMap, Function.comp_def]

/-- Without their locations, root structures are declared as those of one document. -/
lemma foldl_declareLocated_unlocated (roots : List (Option String × Structure)) (draft : Draft) :
    (roots.foldl declareLocated draft).unlocated =
      declareStructures ⟨bindings draft.node, ""⟩ (roots.map Prod.snd) draft.unlocated := by
  induction roots generalizing draft with
  | nil => rfl
  | cons root roots ih =>
    have hnode : (declareLocated draft root).node = draft.node :=
      (declareStructure_like (site draft.node root.1) root.2 draft).1
    have hroot : (declareLocated draft root).unlocated =
        declareStructure ⟨bindings draft.node, ""⟩ root.2 draft.unlocated :=
      declareStructure_unlocated (site draft.node root.1) root.2 draft
    rw [List.foldl_cons, ih, hnode, hroot, List.map_cons, declareStructures]

lemma evaluate_unlocated (documents : List (Option String × Body)) (node : NodeData) :
    ((ofDocuments documents).evaluate node).unlocated =
      (declareStructures ⟨bindings node, ""⟩ (structuresOf documents) (.recipe node)).toBlock := by
  rw [evaluate, ← Draft.toBlock_unlocated, declare_ofDocuments, foldl_declareLocated_unlocated,
    map_snd_rootsOf]
  rfl

lemma sameButLocation_of_mapError {a b : Except CompileError String}
    (h : a.mapError CompileError.unlocated = b.mapError CompileError.unlocated) :
    SameButLocation a b := by
  cases a with
  | ok text =>
    cases b with
    | ok other => exact Except.ok.inj h ▸ .script text
    | error error => exact nomatch h
  | error error =>
    cases b with
    | ok text => exact nomatch h
    | error other =>
      obtain rfl | ⟨location, place, reason, rfl, rfl⟩ :=
        CompileError.eq_of_unlocated_eq (Except.error.inj h)
      · exact .error error
      · exact .refused location place reason

/-- Documents with the same root structures have the same script, or fail with the same error up to its
location. Declaring some documents and then others on a block is declaring all of them at once. -/
theorem declare_split :
    (∀ {documents others : List (Option String × Body)},
      structuresOf documents = structuresOf others → ∀ node : NodeData,
        SameButLocation ((ofDocuments documents).evaluate node).script
          ((ofDocuments others).evaluate node).script) ∧
    ∀ (documents more : List (Option String × Body)) (draft : Draft),
      (ofDocuments more).declare ((ofDocuments documents).declare draft) =
        (ofDocuments (documents ++ more)).declare draft := by
  constructor
  · intro documents others h node
    have htrees : ((ofDocuments documents).evaluate node).unlocated =
        ((ofDocuments others).evaluate node).unlocated := by
      rw [evaluate_unlocated, evaluate_unlocated, h]
    apply sameButLocation_of_mapError
    rw [← Block.script_unlocated, ← Block.script_unlocated, htrees]
  · intro documents more draft
    have hroots : rootsOf (documents ++ more) = rootsOf documents ++ rootsOf more :=
      List.flatMap_append
    rw [declare_ofDocuments, declare_ofDocuments, declare_ofDocuments, hroots, List.foldl_append]

/-- A greeting, an attribute that a recipe does not have, and a switch. -/
def greeting : List Structure :=
  [.assignment "echo" (.string "hi"), .assignment "colour" (.string "red"),
    .block "halt_on_failed_command" [] ⟨[]⟩]

theorem declare_split_greeting :
    let documents : List (Option String × Body) := [(some "a.galley.hcl", ⟨greeting.take 1⟩),
      (none, ⟨[]⟩), (some "b.galley.hcl", ⟨greeting.drop 1⟩)]
    let others : List (Option String × Body) := [(none, ⟨greeting⟩)]
    structuresOf documents = structuresOf others ∧
      SameButLocation ((ofDocuments documents).evaluate .empty).script
        ((ofDocuments others).evaluate .empty).script ∧
      ((ofDocuments documents).evaluate .empty).script =
        .error (.invalidDeclaration "b.galley.hcl" "unknown attribute `colour`") ∧
      ((ofDocuments others).evaluate .empty).script =
        .error (.invalidDeclaration "<stdin>" "unknown attribute `colour`") := by
  intro documents others
  obtain ⟨hscripts, -⟩ := declare_split
  have hsame : structuresOf documents = structuresOf others := rfl
  exact ⟨hsame, hscripts hsame .empty, rfl, rfl⟩

end Store

end Document

end SetupRecipe
