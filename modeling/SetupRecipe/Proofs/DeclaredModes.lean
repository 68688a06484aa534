import SetupRecipe.Proofs.RefusalReports

/-!
# Permission values of recipe files

A file or a directory of a recipe file takes a text as its permission value if it is made of octal
digits, of a value that fits into a word, behind one mark at most. Texts with more marks or with a plus
sign in front of the digits are taken as well. Every other text keeps the documents from being compiled,
and if nothing else is wrong with them, it is what is reported.
-/

namespace SetupRecipe

open Shell (HasSlip SpellsMode)

/-- The permission value that is declared for a file or a directory. -/
def Settings.mode? : Settings → Option UInt32
  | file s => s.mode
  | directory s => s.mode
  | _ => none

namespace Document

open Config (Structure Body Expression)
open Program (Draft Target)

/-- The permission value that was declared so far for the resource of a block. -/
def declaredMode? (draft : Draft) : Option UInt32 :=
  draft.resource.bind fun resource => resource.2.mode?

/-- A text that is taken as a permission value. -/
def TakenAsMode (text : String) (mode : UInt32) : Prop :=
  ∃ marks, SpellsMode marks [] text mode ∨ SpellsMode marks ['+'] text mode

section Attributes

variable {kind : BlockKind} {e : Expression} {text : String} {site : Site} {draft : Draft}

lemma attributeRequest_mode (hkind : kind = .file ∨ kind = .directory) :
    attributeRequest (.block kind) "mode" (.string text) = modeAttribute (.string text) := by
  rcases hkind with rfl | rfl <;> rfl

lemma declareStructure_modeText (hkind : kind = .file ∨ kind = .directory)
    (htarget : draft.target = .block kind) (htext : e.eval site.bindings = .ok (.string text)) :
    declareStructure site (.assignment "mode" e) draft =
      site.grant draft (modeAttribute (.string text)) := by
  rw [declareStructure, Site.assignment, Site.evaluate, htext, htarget]
  simp only [attributeRequest_mode hkind]

lemma declaredMode?_set (hkind : kind = .file ∨ kind = .directory)
    (htarget : draft.target = .block kind) (mode : UInt32) :
    declaredMode? (draft.set (.mode mode)) = some mode := by
  unfold Draft.target at htarget
  unfold declaredMode? Draft.set
  cases hresource : draft.resource with
  | none =>
    rw [hresource] at htarget
    exact nomatch htarget
  | some resource =>
    obtain ⟨origin, settings⟩ := resource
    rw [hresource] at htarget
    obtain rfl : settings.kind = kind := Target.block.inj htarget
    cases settings with
    | file s => rfl
    | directory s => rfl
    | _ => simp [Settings.kind] at hkind

/-- The text is declared as the value that it is taken for. -/
lemma declareStructure_takenMode {mode : UInt32} (hkind : kind = .file ∨ kind = .directory)
    (htarget : draft.target = .block kind) (htext : e.eval site.bindings = .ok (.string text))
    (hmode : TakenAsMode text mode) :
    declareStructure site (.assignment "mode" e) draft = draft.set (.mode mode) := by
  rw [declareStructure_modeText hkind htarget htext]
  simp [modeAttribute, wantMode, wantString, Shell.readMode?_eq_some_iff.mpr hmode, bind, Except.bind,
    Request.ofExcept, Request.edit, Site.grant, Edit.apply]

lemma blockRefuses_mode (hkind : kind = .file ∨ kind = .directory)
    {bindings : List (String × Config.Value)} (htext : e.eval bindings = .ok (.string text))
    (hmode : ∀ mode, ¬ TakenAsMode text mode) :
    BlockRefuses bindings (.block kind) (.assignment "mode" e) (.notOctal text) := by
  have hread : Shell.readMode? text = none := by
    rw [Option.eq_none_iff_forall_ne_some]
    exact fun mode hmode' => hmode mode (Shell.readMode?_eq_some_iff.mp hmode')
  apply BlockRefuses.value htext
  rw [← attributeRequest_refused, attributeRequest_mode hkind, modeAttribute_refused]
  exact Or.inr ⟨text, rfl, hread, rfl⟩

end Attributes

/-! ## Other structures -/

section Others

lemma eq_edit_of_mem_ofExcept {α : Type} {make : α → Edit} {x : Except Refusal α} {edit : Edit}
    (h : edit ∈ (Request.ofExcept make x).edits) : ∃ a, edit = make a := by
  cases x with
  | ok a => exact ⟨a, List.mem_singleton.mp h⟩
  | error refusal => exact absurd h List.not_mem_nil

lemma eq_command_of_mem_commands {values : List Config.Value} {edit : Edit}
    (h : edit ∈ (commandsAttribute values).edits) : ∃ text, edit = .command text := by
  induction values with
  | nil => exact absurd h List.not_mem_nil
  | cons value values ih =>
    unfold commandsAttribute at h
    split at h
    · next text _ =>
      rcases List.mem_cons.mp h with rfl | hrest
      · exact ⟨text, rfl⟩
      · exact ih hrest
    · exact absurd h List.not_mem_nil

lemma eq_command_of_mem_command {value : Config.Value} {edit : Edit}
    (h : edit ∈ (commandAttribute value).edits) : ∃ text, edit = .command text := by
  unfold commandAttribute at h
  split at h
  · exact eq_command_of_mem_commands h
  · exact eq_command_of_mem_commands h

/-- Only a permission value sets the permission value. -/
lemma ne_mode_of_mem_edits {target : Target} {key : String} (hkey : key ≠ "mode")
    {value : Config.Value} {edit : Edit} (h : edit ∈ (attributeRequest target key value).edits)
    (mode : UInt32) : edit ≠ .set (.mode mode) := by
  unfold attributeRequest at h
  by_cases hecho : key = "echo"
  · rw [if_pos hecho] at h
    obtain ⟨message, rfl⟩ := eq_edit_of_mem_ofExcept h
    simp
  · rw [if_neg hecho] at h
    cases target with
    | recipe => exact absurd h List.not_mem_nil
    | block kind =>
      simp only at h
      unfold blockAttribute at h
      split at h
      case h_1 =>
        obtain ⟨text, rfl⟩ := eq_command_of_mem_command h
        simp
      case h_7 => exact absurd rfl hkey
      case h_9 => exact absurd rfl hkey
      case h_15 => exact absurd h List.not_mem_nil
      all_goals
        obtain ⟨text, rfl⟩ := eq_edit_of_mem_ofExcept h
        simp

lemma declaredMode?_apply {draft : Draft} {edit : Edit} (h : ∀ mode, edit ≠ .set (.mode mode)) :
    declaredMode? (edit.apply draft) = declaredMode? draft := by
  cases edit with
  | echo message => rfl
  | command text =>
    change declaredMode? (draft.command text) = declaredMode? draft
    unfold Draft.command
    split
    · rfl
    · rfl
  | set setting =>
    have hsettings : ∀ settings : Settings, (settings.set setting).mode? = settings.mode? := by
      intro settings
      cases setting with
      | mode mode => exact absurd rfl (h mode)
      | _ => cases settings <;> rfl
    unfold declaredMode? Edit.apply Draft.set
    cases draft.resource with
    | none => rfl
    | some resource => exact hsettings resource.2

lemma declaredMode?_grant {site : Site} {draft : Draft} {request : Request}
    (h : ∀ edit ∈ request.edits, ∀ mode, edit ≠ .set (.mode mode)) :
    declaredMode? (site.grant draft request) = declaredMode? draft := by
  have hedits : declaredMode? (request.edits.foldl Edit.apply draft) = declaredMode? draft := by
    generalize request.edits = edits at h
    induction edits generalizing draft with
    | nil => rfl
    | cons edit edits ih =>
      rw [List.forall_mem_cons] at h
      rw [List.foldl_cons, ih h.2, declaredMode?_apply h.1]
  unfold Site.grant
  split
  · exact hedits
  · exact hedits

lemma declaredMode?_closeBlock (draft inner : Draft) :
    declaredMode? (draft.closeBlock inner) = declaredMode? draft := by
  unfold Draft.closeBlock
  split
  · rfl
  · rfl

/-- A structure that is no permission value leaves the declared one as it is. -/
lemma declaredMode?_declareStructure {site : Site} {s : Structure}
    (hs : ∀ e, s ≠ .assignment "mode" e) (draft : Draft) :
    declaredMode? (declareStructure site s draft) = declaredMode? draft := by
  obtain ⟨key, e⟩ | ⟨word, labels, ⟨structures⟩⟩ := s
  · rw [declareStructure]
    apply declaredMode?_grant
    intro edit hedit
    unfold Site.assignment at hedit
    split at hedit
    · exact ne_mode_of_mem_edits (fun hkey => hs e (hkey ▸ rfl)) hedit
    · exact absurd hedit List.not_mem_nil
  · rw [declareStructure]
    split
    · rfl
    · rfl
    · next name version _ =>
      have hgem : ∀ mode, Edit.set (.gem name version) ≠ .set (.mode mode) := by simp
      exact declaredMode?_apply hgem
    · exact declaredMode?_closeBlock _ _

lemma declaredMode?_declareStructures {site : Site} {structures : List Structure}
    (h : ∀ e, .assignment "mode" e ∉ structures) (draft : Draft) :
    declaredMode? (declareStructures site structures draft) = declaredMode? draft := by
  induction structures generalizing draft with
  | nil => rfl
  | cons s structures ih =>
    rw [declareStructures, ih fun e he => h e (List.mem_cons_of_mem s he)]
    exact declaredMode?_declareStructure (fun e he => h e (he ▸ List.mem_cons_self)) draft

lemma declareStructures_append (site : Site) (structures more : List Structure) (draft : Draft) :
    declareStructures site (structures ++ more) draft =
      declareStructures site more (declareStructures site structures draft) := by
  induction structures generalizing draft with
  | nil => rfl
  | cons s structures ih => exact ih (declareStructure site s draft)

end Others

/-! ## Reports -/

lemma FirstRefused.refused {α : Type} {refuses : α → Refusal → Prop} {items : List α} {first : α}
    {refusal : Refusal} (h : FirstRefused refuses items first refusal) :
    first ∈ items ∧ refuses first refusal := by
  obtain ⟨before, after, rfl, -, hrefused⟩ := h
  exact ⟨List.mem_append_right before List.mem_cons_self, hrefused⟩

namespace Store

section Reports

variable {documents : List (Option String × Body)} {document : Option String × Body}
  {node : NodeData}

lemma recipe_opened (node : NodeData) : Opened node .recipe (.recipe node) := ⟨rfl, rfl, rfl, rfl⟩

lemma exists_error_of_refuses (hdocument : document ∈ documents) {place : Place}
    {structures : List Structure} (hstands : StandsIn document.2.structures place structures)
    {s : Structure} (hs : s ∈ structures) {refusal : Refusal}
    (hrefused : place.Refuses (bindings node) s refusal) :
    ∃ error, ((ofDocuments documents).evaluate node).script = .error error := by
  rw [evaluate_ofDocuments]
  cases hscript : ((rootsOf documents).foldl declareLocated (.recipe node)).toBlock.script with
  | error error => exact ⟨error, rfl⟩
  | ok script =>
    obtain ⟨fragments, hfragments, -⟩ := ok_of_map_eq_ok hscript
    exact absurd hrefused
      (not_refused_of_renders hdocument ⟨fragments, hfragments⟩ hstands hs refusal)

/-- What is reported of a structure is why a structure of some document is refused. -/
lemma exists_refused_of_reported {location reason : String}
    (hscript : ((ofDocuments documents).evaluate node).script =
      .error (.invalidDeclaration location reason)) :
    ∃ document ∈ documents, ∃ place structures s refusal,
      StandsIn document.2.structures place structures ∧ s ∈ structures ∧
      place.Refuses (bindings node) s refusal ∧
      location = locationText document.1 ∧ reason = refusal.text := by
  rw [evaluate_ofDocuments] at hscript
  have hwalk := (Block.script_failsFirst _).error_iff _ |>.mp hscript
  have hviolation := Block.mem_walk_iff_violation.mp (List.mem_of_mem_head? hwalk)
  cases hviolation with
  | problem hproblem =>
    obtain ⟨root, refusal, hfirst, hreported⟩ :=
      (declareLocated_problem_iff (recipe_opened node)).mp hproblem
    obtain ⟨hroot, hrefused⟩ := hfirst.refused
    obtain ⟨document, hdocument, hsource, hs⟩ := mem_rootsOf.mp hroot
    obtain ⟨rfl, rfl⟩ := CompileError.invalidDeclaration.inj hreported
    exact ⟨document, hdocument, _, _, root.2, refusal, .roots, hs, hrefused,
      congrArg locationText hsource, rfl⟩
  | resource child h => cases h
  | nested child h =>
    rcases mem_children_declareLocated child with
      hold | ⟨source, kind, labels, structures, inner, hmem, hinner, hbody⟩
    · exact absurd hold List.not_mem_nil
    · obtain ⟨document, hdocument, rfl, hs⟩ := mem_rootsOf.mp hmem
      obtain ⟨place, body, s, refusal, hstands, hfirst, hlocation, hreason⟩ :=
        reported_of_violation h rfl hinner (.resource .roots hs) hbody
      obtain ⟨hmem, hrefused⟩ := hfirst.refused
      exact ⟨document, hdocument, place, body, s, refusal, hstands, hmem, hrefused, hlocation,
        hreason⟩

end Reports

/-- All that is wrong with documents is refused for one reason, and comes from one place. -/
structure OnlyFault (documents : List (Option String × Body)) (node : NodeData)
    (source : Option String) (refusal : Refusal) : Prop where
  refused : ∀ document ∈ documents, ∀ place structures,
    StandsIn document.2.structures place structures → ∀ s ∈ structures, ∀ r,
      place.Refuses (bindings node) s r → document.1 = source ∧ r = refusal
  violated : ∀ error, ((ofDocuments documents).evaluate node).Violation error →
    ∃ location reason, error = .invalidDeclaration location reason

variable {documents : List (Option String × Body)} {node : NodeData}

/-- The only fault of documents is what is reported, if they are not compiled. -/
lemma OnlyFault.reported {source : Option String} {refusal : Refusal}
    (h : OnlyFault documents node source refusal)
    (hfails : ∃ error, ((ofDocuments documents).evaluate node).script = .error error) :
    ((ofDocuments documents).evaluate node).script =
      .error (.invalidDeclaration (locationText source) refusal.text) := by
  obtain ⟨error, hscript⟩ := hfails
  have hwalk := (Block.script_failsFirst _).error_iff _ |>.mp hscript
  obtain ⟨location, reason, rfl⟩ :=
    h.violated error (Block.mem_walk_iff_violation.mp (List.mem_of_mem_head? hwalk))
  rw [hscript]
  obtain ⟨document, hdocument, place, structures, s, r, hstands, hs, hrefused, rfl, rfl⟩ :=
    exists_refused_of_reported hscript
  obtain ⟨rfl, rfl⟩ := h.refused document hdocument place structures hstands s hs r hrefused
  rfl

/-- A permission value is declared if its text is taken as one, and the last one of a block is that of its
resource. Otherwise the documents are not compiled. But for those with several marks or a plus sign, the
texts that are taken are octal digits behind one mark at most. -/
theorem modes_declared_or_reported {document : Option String × Body} (hdocument : document ∈ documents)
    {kind : BlockKind} (hkind : kind = .file ∨ kind = .directory) {structures : List Structure}
    (hstands : StandsIn document.2.structures (.block (.block kind)) structures) {e : Expression}
    (hmode : .assignment "mode" e ∈ structures) {text : String}
    (htext : e.eval (bindings node) = .ok (.string text)) :
    (∀ mode, TakenAsMode text mode → ∀ draft : Draft, draft.target = .block kind →
      declareStructure (site node document.1) (.assignment "mode" e) draft = draft.set (.mode mode) ∧
      ∀ before after, structures = before ++ .assignment "mode" e :: after →
        (∀ later, .assignment "mode" later ∉ after) →
          declaredMode? (declareStructures (site node document.1) structures draft) = some mode) ∧
    ((∀ mode, ¬ TakenAsMode text mode) →
      (∃ error, ((ofDocuments documents).evaluate node).script = .error error) ∧
      (OnlyFault documents node document.1 (.notOctal text) →
        ((ofDocuments documents).evaluate node).script =
          .error (.invalidDeclaration (locationText document.1)
            ("`mode` must be an octal string, found " ++ Text.quoted text)))) ∧
    ∀ mode, TakenAsMode text mode ∧ ¬ HasSlip text ↔
      ∃ marks ≤ 1, SpellsMode marks [] text mode := by
  refine ⟨?taken, ?refused, ?plain⟩
  case taken =>
    intro mode htaken draft htarget
    refine ⟨declareStructure_takenMode hkind htarget htext htaken, ?_⟩
    rintro before after rfl hlast
    have hbefore : (declareStructures (site node document.1) before draft).target = .block kind :=
      (declareStructures_like _ before draft).2.trans htarget
    rw [declareStructures_append, declareStructures, declaredMode?_declareStructures hlast,
      declareStructure_takenMode hkind hbefore htext htaken]
    exact declaredMode?_set hkind hbefore mode
  case refused =>
    intro hnone
    have hfails := exists_error_of_refuses hdocument hstands hmode (blockRefuses_mode hkind htext hnone)
    exact ⟨hfails, fun honly => honly.reported hfails⟩
  case plain =>
    intro mode
    constructor
    · rintro ⟨⟨marks, h⟩, hplain⟩
      exact ⟨marks, Shell.spellsMode_of_plain hplain h⟩
    · rintro ⟨marks, hmarks, h⟩
      exact ⟨⟨marks, Or.inl h⟩, Shell.not_hasSlip_of_spells hmarks h⟩

/-- A file with a text as its permission value. -/
def fileWithMode (text : String) : Option String × Body :=
  (none, ⟨[.block "file" ["/f"] ⟨[.assignment "mode" (.string text)]⟩]⟩)

lemma standsIn_fileWithMode {text : String} {place : Place} {structures : List Structure}
    (h : StandsIn (fileWithMode text).2.structures place structures) :
    (place = .block .recipe ∧ structures = (fileWithMode text).2.structures) ∨
      (place = .block (.block .file) ∧ structures = [.assignment "mode" (.string text)]) := by
  induction h with
  | roots => exact Or.inl ⟨rfl, rfl⟩
  | @resource target kind labels structures body outer mem ih =>
    rcases ih with ⟨-, rfl⟩ | ⟨-, rfl⟩
    · obtain ⟨hword, -, rfl⟩ : kind.word = "file" ∧ labels = ["/f"] ∧
          body = [.assignment "mode" (.string text)] := by simpa [fileWithMode] using mem
      obtain rfl : kind = .file := by
        revert hword
        cases kind <;> decide
      exact Or.inr ⟨rfl, rfl⟩
    · simp at mem
  | gem outer mem ih =>
    rcases ih with ⟨hplace, -⟩ | ⟨hplace, -⟩ <;> simp at hplace

/-- Nothing is wrong with the file but its permission value. -/
lemma onlyFault_wrongDigits :
    OnlyFault [fileWithMode "0888"] .empty none (.notOctal "0888") where
  refused := by
    intro document hdocument place structures hstands s hs r hrefused
    obtain rfl := List.mem_singleton.mp hdocument
    refine ⟨rfl, ?_⟩
    rcases standsIn_fileWithMode hstands with ⟨rfl, rfl⟩ | ⟨rfl, rfl⟩
    · obtain rfl := List.mem_singleton.mp hs
      have hr : refusal? (site .empty none) .recipe _ = some r := refusal?_eq_some.mpr hrefused
      exact nomatch hr
    · obtain rfl := List.mem_singleton.mp hs
      have hr : refusal? (site .empty none) (.block .file) _ = some r :=
        refusal?_eq_some.mpr hrefused
      exact (Option.some.inj hr).symm
  violated := by
    intro error herror
    have hwalk : ((ofDocuments [fileWithMode "0888"]).evaluate .empty).walk =
        [.invalidDeclaration "<stdin>" (Refusal.notOctal "0888").text] := rfl
    have hmem := Block.mem_walk_iff_violation.mpr herror
    rw [hwalk] at hmem
    exact ⟨_, _, List.mem_singleton.mp hmem⟩

theorem modes_declared_or_reported_file :
    (StandsIn (fileWithMode "0888").2.structures (.block (.block .file))
        [.assignment "mode" (.string "0888")] ∧
      ((ofDocuments [fileWithMode "0888"]).evaluate .empty).script =
        .error (.invalidDeclaration "<stdin>"
          "`mode` must be an octal string, found \"0888\"")) ∧
    ∀ draft : Draft, draft.target = .block .file →
      declaredMode? (declareStructures (site .empty none)
        [.assignment "mode" (.string "0o644")] draft) = some 0o644 := by
  have hstands : ∀ text, StandsIn (fileWithMode text).2.structures (.block (.block .file))
      [.assignment "mode" (.string text)] :=
    fun text => .resource .roots List.mem_cons_self
  have htext : ∀ text, (Expression.string text).eval (bindings .empty) = .ok (.string text) :=
    fun text => rfl
  have hsettled (text : String) := modes_declared_or_reported (List.mem_singleton.mpr rfl)
    (Or.inl rfl) (hstands text) List.mem_cons_self (htext text)
  refine ⟨⟨hstands "0888", ?_⟩, ?_⟩
  · obtain ⟨-, hrefused, -⟩ := hsettled "0888"
    have hnone : ∀ mode, ¬ TakenAsMode "0888" mode := by
      intro mode hmode
      have hread : Shell.readMode? "0888" = some mode := Shell.readMode?_eq_some_iff.mpr hmode
      exact nomatch hread
    obtain ⟨-, hreported⟩ := hrefused hnone
    exact hreported onlyFault_wrongDigits
  · obtain ⟨htaken, -, -⟩ := hsettled "0o644"
    intro draft htarget
    have hoctal : TakenAsMode "0o644" 0o644 := Shell.readMode?_eq_some_iff.mp rfl
    exact (htaken 0o644 hoctal draft htarget).2 [] [] rfl fun _ => List.not_mem_nil

theorem fileWithMode_taken :
    (∀ text ∈ ["0o0o644", "+644"], ∀ marks ≤ 1, ∀ mode, ¬ SpellsMode marks [] text mode) ∧
    ∀ text ∈ ["0o0o644", "+644"],
      ((ofDocuments [fileWithMode text]).evaluate .empty).script =
        .ok "if ! test -e /f; then\n  touch /f\n  chmod 0644 /f\nfi\n" := by
  have hslip : ∀ text ∈ ["0o0o644", "+644"], HasSlip text := by
    unfold HasSlip
    decide
  constructor
  · intro text htext marks hmarks mode h
    exact Shell.not_hasSlip_of_spells hmarks h (hslip text htext)
  · intro text htext
    simp only [List.mem_cons, List.not_mem_nil, or_false] at htext
    rcases htext with rfl | rfl
    · rfl
    · rfl

end Store

end Document

end SetupRecipe
