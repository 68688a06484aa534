import Mathlib.Data.List.Forall2
import SetupRecipe.Proofs.Growth
import SetupRecipe.Proofs.Translation
import SetupRecipe.Proofs.Violations

/-!
# Accepted structures

When the documents of a store have a script, then every structure in them was taken by the block that
it stands in, at every depth: each attribute was known there and had a value of the right form, each
block was known and had the right labels, and all of them left in the tree what they ask for. A block
that stands in a gem is the one exception, as gems are asked for their attributes only.
-/

namespace SetupRecipe.Document

open Config (Structure Expression)
open Program (Draft Target)
open Shell (Fragment)

/-! ## What blocks take -/

/-- The attributes whose values are texts. -/
def textAttributes : List (String × (String → Attribute String)) :=
  [("cwd", .cwd), ("not_if", .notIf), ("creates", .creates), ("path", .path),
    ("content", .content), ("stdout", .stdout), ("stderr", .stderr), ("source", .source)]

/-- The attributes that a block knows, with the values that they may have and what they change. -/
inductive Knows : Target → String → Config.Value → List Edit → Prop where
  | echo (target : Target) (message : String) :
    Knows target "echo" (.string message) [.echo message]
  | command (text : String) : Knows (.block .execute) "command" (.string text) [.command text]
  | commands (texts : List String) :
    Knows (.block .execute) "command" (.list (texts.map .string)) (texts.map .command)
  | text {kind : BlockKind} {key : String} {make : String → Attribute String} (text : String)
    (known : (key, make) ∈ textAttributes) (fits : (make text).fits kind) :
    Knows (.block kind) key (.string text) [.set (make text)]
  | mode {kind : BlockKind} {text : String} {mode : UInt32} (octal : Shell.readMode? text = some mode)
    (fits : (Attribute.mode mode : Attribute String).fits kind) :
    Knows (.block kind) "mode" (.string text) [.set (.mode mode)]

/-- An attribute that gives the version of a gem. -/
def IsVersion (bindings : List (String × Config.Value)) (s : Structure) (version : String) : Prop :=
  ∃ e, s = .assignment "version" e ∧ e.eval bindings = .ok (.string version)

/-- The empty block of a resource with a label; the label of a log is its path. -/
def openLabelled (draft : Draft) (kind : BlockKind) (label : String) : Draft :=
  if kind = .log ∧ label ≠ "" then (draft.openBlock .log "").set (.path label)
  else draft.openBlock kind label

/-- Structures that a block takes one after the other, with the block before and after them. -/
inductive Taken (bindings : List (String × Config.Value)) :
    List Structure → Draft → Draft → Prop where
  | nil (draft : Draft) : Taken bindings [] draft draft
  | assignment {key : String} {e : Expression} {value : Config.Value} {edits : List Edit}
    {structures : List Structure} {draft next : Draft} (evaluates : e.eval bindings = .ok value)
    (known : Knows draft.target key value edits)
    (rest : Taken bindings structures (edits.foldl Edit.apply draft) next) :
    Taken bindings (.assignment key e :: structures) draft next
  | haltOnFailedCommand {labels : List String} {structures : List Structure} {draft next : Draft}
    (unlabelled : labels = [] ∨ labels = [""])
    (rest : Taken bindings structures draft.haltOnFailedCommand next) :
    Taken bindings (.block "halt_on_failed_command" labels ⟨[]⟩ :: structures) draft next
  | gem {name : String} {body structures : List Structure} {versions : List String}
    {draft next : Draft} (stands : draft.target = .block .gemfile)
    (inside : List.Forall₂ (IsVersion bindings) body versions)
    (rest : Taken bindings structures (draft.set (.gem name versions.getLast?)) next) :
    Taken bindings (.block "gem" [name] ⟨body⟩ :: structures) draft next
  | resource {kind : BlockKind} {labels : List String} {body structures : List Structure}
    {draft inner next : Draft} (labelled : labels.length ≤ 1)
    (inside : Taken bindings body (openLabelled draft kind (labels.headD "")) inner)
    (rest : Taken bindings structures (draft.closeBlock inner) next) :
    Taken bindings (.block kind.word labels ⟨body⟩ :: structures) draft next

/-- The kind of block that a word declares. -/
def kindOf? (word : String) : Option BlockKind :=
  [.execute, .file, .directory, .log, .gemfile].find? fun kind : BlockKind => kind.word = word

mutual

/-- Whether no block stands in a gem, inside of a structure that stands in a block. -/
def bareGems (target : Target) : Structure → Bool
  | .assignment _ _ => true
  | .block word _ ⟨structures⟩ =>
    if target = .block .gemfile ∧ word = "gem" then structures.all fun s => s.key?.isSome
    else match kindOf? word with
      | some kind => allBareGems (.block kind) structures
      | none => true

def allBareGems (target : Target) : List Structure → Bool
  | [] => true
  | s :: structures => bareGems target s && allBareGems target structures

end

/-! ## Attributes -/

lemma eq_string_of_wantString {key text : String} {value : Config.Value}
    (h : wantString key value = .ok text) : value = .string text := by
  cases value with
  | string s => rw [Except.ok.inj h]
  | _ => exact nomatch h

lemma knows_text {kind : BlockKind} {key : String} {make : String → Attribute String}
    {value : Config.Value} (known : (key, make) ∈ textAttributes)
    (fits : ∀ text, (make text).fits kind) (h : (textAttribute key make value).refusal = none) :
    Knows (.block kind) key value (textAttribute key make value).edits := by
  unfold textAttribute at h ⊢
  cases hvalue : wantString key value with
  | error refusal =>
    rw [hvalue] at h
    exact nomatch h
  | ok text =>
    rw [eq_string_of_wantString hvalue]
    exact .text text known (fits text)

lemma knows_mode {kind : BlockKind} {value : Config.Value}
    (fits : ∀ mode, (Attribute.mode mode : Attribute String).fits kind)
    (h : (modeAttribute value).refusal = none) :
    Knows (.block kind) "mode" value (modeAttribute value).edits := by
  unfold modeAttribute at h ⊢
  cases hmode : wantMode value with
  | error refusal =>
    rw [hmode] at h
    exact nomatch h
  | ok mode =>
    obtain ⟨text, hvalue, hdigits⟩ := ok_of_bind_eq_ok hmode
    rw [eq_string_of_wantString hvalue]
    cases hread : Shell.readMode? text with
    | none =>
      rw [hread] at hdigits
      exact nomatch hdigits
    | some read =>
      rw [hread] at hdigits
      obtain rfl := Except.ok.inj hdigits
      exact .mode hread (fits read)

lemma commandsAttribute_of_not_refused {values : List Config.Value}
    (h : (commandsAttribute values).refusal = none) :
    ∃ texts : List String, values = texts.map .string ∧
      (commandsAttribute values).edits = texts.map .command := by
  induction values with
  | nil => exact ⟨[], rfl, rfl⟩
  | cons value values ih =>
    rw [commandsAttribute] at h ⊢
    cases hvalue : wantString "command" value with
    | error refusal =>
      rw [hvalue] at h
      exact nomatch h
    | ok text =>
      rw [hvalue] at h
      obtain ⟨texts, hvalues, hedits⟩ := ih h
      refine ⟨text :: texts, ?_, ?_⟩
      · rw [hvalues, eq_string_of_wantString hvalue, List.map_cons]
      · rw [List.map_cons, ← hedits]

lemma knows_command {value : Config.Value} (h : (commandAttribute value).refusal = none) :
    Knows (.block .execute) "command" value (commandAttribute value).edits := by
  unfold commandAttribute at h ⊢
  split at h
  · obtain ⟨texts, rfl, hedits⟩ := commandsAttribute_of_not_refused h
    rw [hedits]
    exact .commands texts
  · obtain ⟨texts, hvalue, hedits⟩ := commandsAttribute_of_not_refused h
    obtain ⟨text, rfl⟩ : ∃ text, texts = [text] := by
      rw [← List.length_eq_one_iff, ← List.length_map, ← hvalue]
      rfl
    obtain rfl := List.head_eq_of_cons_eq hvalue
    exact .command text

/-- What a block does not refuse is an attribute that it knows. -/
lemma knows_of_attributeRequest {target : Target} {key : String} {value : Config.Value}
    (h : (attributeRequest target key value).refusal = none) :
    Knows target key value (attributeRequest target key value).edits := by
  unfold attributeRequest at h ⊢
  by_cases hecho : key = "echo"
  · rw [if_pos hecho] at h ⊢
    subst hecho
    cases hvalue : wantString "echo" value with
    | error refusal =>
      rw [hvalue] at h
      exact nomatch h
    | ok message =>
      rw [eq_string_of_wantString hvalue]
      exact .echo target message
  · rw [if_neg hecho] at h ⊢
    cases target with
    | recipe => exact nomatch h
    | block kind =>
      simp only at h ⊢
      unfold blockAttribute at h ⊢
      split at h
      · exact knows_command h
      · exact knows_text (by simp [textAttributes]) (fun _ => rfl) h
      · exact knows_text (by simp [textAttributes]) (fun _ => rfl) h
      · exact knows_text (by simp [textAttributes]) (fun _ => rfl) h
      · exact knows_text (by simp [textAttributes]) (fun _ => rfl) h
      · exact knows_text (by simp [textAttributes]) (fun _ => rfl) h
      · exact knows_mode (fun _ => rfl) h
      · exact knows_text (by simp [textAttributes]) (fun _ => rfl) h
      · exact knows_mode (fun _ => rfl) h
      · exact knows_text (by simp [textAttributes]) (fun _ => rfl) h
      · exact knows_text (by simp [textAttributes]) (fun _ => rfl) h
      · exact knows_text (by simp [textAttributes]) (fun _ => rfl) h
      · exact knows_text (by simp [textAttributes]) (fun _ => rfl) h
      · exact knows_text (by simp [textAttributes]) (fun _ => rfl) h
      · exact nomatch h

/-! ## Blocks -/

lemma value_of_evaluate {site : Site} {key : String} {e : Expression} {value : Config.Value}
    (h : site.evaluate key e = .ok value) : e.eval site.bindings = .ok value := by
  unfold Site.evaluate at h
  cases hvalue : e.eval site.bindings with
  | error failure =>
    rw [hvalue] at h
    exact nomatch h
  | ok found =>
    rw [hvalue] at h
    rw [Except.ok.inj h]

/-- A gem whose version is found holds versions, as far as it holds attributes. -/
lemma versions_of_gemVersion {site : Site} {structures : List Structure}
    {before version : Option String} (hattributes : structures.all fun s => s.key?.isSome)
    (h : gemVersion site structures before = .ok version) :
    ∃ versions, List.Forall₂ (IsVersion site.bindings) structures versions ∧
      version = versions.getLast?.or before := by
  induction structures generalizing before with
  | nil => exact ⟨[], .nil, (Except.ok.inj h).symm⟩
  | cons s structures ih =>
    rw [List.all_cons, Bool.and_eq_true] at hattributes
    obtain ⟨key, e⟩ | ⟨word, labels, body⟩ := s
    · rw [gemVersion] at h
      by_cases hkey : key = "version"
      · rw [if_pos hkey] at h
        obtain ⟨value, hvalue, h⟩ := ok_of_bind_eq_ok h
        obtain ⟨text, htext, h⟩ := ok_of_bind_eq_ok h
        obtain ⟨versions, hversions, hlast⟩ := ih hattributes.2 h
        have hversion : IsVersion site.bindings (.assignment key e) text := by
          refine ⟨e, by rw [hkey], ?_⟩
          rw [value_of_evaluate hvalue, eq_string_of_wantString htext]
        refine ⟨text :: versions, .cons hversion hversions, ?_⟩
        rw [hlast, List.getLast?_cons]
        cases versions.getLast? <;> rfl
      · rw [if_neg hkey] at h
        exact nomatch h
    · exact absurd hattributes.1 Bool.false_ne_true

/-- The words that declare resources, with what they declare. -/
lemma opening_eq_resource {site : Site} {target : Target} {word : String} {labels : List String}
    {structures : List Structure} {kind : BlockKind} {label : String}
    {preset : List (Attribute String)}
    (h : opening site target word labels structures = .ok (.resource kind label preset)) :
    word = kind.word ∧ labels.length ≤ 1 ∧ ∀ draft,
      preset.foldl Draft.set (draft.openBlock kind label) =
        openLabelled draft kind (labels.headD "") := by
  unfold opening at h
  split at h
  · unfold gemOpening at h
    split at h
    · obtain ⟨version, -, h⟩ := ok_of_bind_eq_ok h
      exact nomatch h
    · exact nomatch h
  · split at h
    · exact nomatch h
    · next hlabels =>
      have hlength : labels.length ≤ 1 := Nat.le_of_not_lt hlabels
      unfold resourceOpening at h
      split at h
      case h_5 =>
        obtain ⟨rfl, rfl, rfl⟩ := Opening.resource.inj (Except.ok.inj h)
        refine ⟨rfl, hlength, fun draft => ?_⟩
        unfold openLabelled
        generalize labels.headD "" = label
        by_cases hlabel : label = ""
        · simp [hlabel]
        · simp [hlabel]
      case h_6 =>
        split at h <;> exact nomatch h
      case h_7 => exact nomatch h
      all_goals
        obtain ⟨rfl, rfl, rfl⟩ := Opening.resource.inj (Except.ok.inj h)
        exact ⟨rfl, hlength, fun draft => by simp [openLabelled]⟩

lemma opening_eq_halt {site : Site} {target : Target} {word : String} {labels : List String}
    {structures : List Structure}
    (h : opening site target word labels structures = .ok .haltOnFailedCommand) :
    word = "halt_on_failed_command" ∧ (labels = [] ∨ labels = [""]) ∧ structures = [] := by
  unfold opening at h
  split at h
  · unfold gemOpening at h
    split at h
    · obtain ⟨version, -, h⟩ := ok_of_bind_eq_ok h
      exact nomatch h
    · exact nomatch h
  · split at h
    · exact nomatch h
    · next hlabels =>
      unfold resourceOpening at h
      split at h
      case h_6 =>
        split at h
        · next hbare =>
          refine ⟨rfl, ?_, List.isEmpty_iff.mp hbare.2⟩
          match labels, hlabels, hbare.1 with
          | [], _, _ => exact Or.inl rfl
          | [label], _, hlabel => exact Or.inr (congrArg (fun text => [text]) hlabel)
          | first :: second :: more, hlabels, _ => exact absurd (by simp) hlabels
        · exact nomatch h
      all_goals exact nomatch h

lemma opening_eq_gem {site : Site} {target : Target} {word name : String} {labels : List String}
    {structures : List Structure} {version : Option String}
    (h : opening site target word labels structures = .ok (.gem name version)) :
    (target = .block .gemfile ∧ word = "gem") ∧ labels = [name] ∧
      gemVersion site structures none = .ok version := by
  unfold opening at h
  split at h
  · next hgem =>
    unfold gemOpening at h
    split at h
    · obtain ⟨found, hversion, h⟩ := ok_of_bind_eq_ok h
      obtain ⟨rfl, rfl⟩ := Opening.gem.inj (Except.ok.inj h)
      exact ⟨hgem, rfl, hversion⟩
    · exact nomatch h
  · split at h
    · exact nomatch h
    · unfold resourceOpening at h
      split at h
      case h_6 => split at h <;> exact nomatch h
      all_goals exact nomatch h

lemma kindOf?_word (kind : BlockKind) : kindOf? kind.word = some kind := by
  cases kind <;> rfl

lemma bareGems_block {target : Target} {kind : BlockKind} {labels : List String}
    {structures : List Structure} (h : bareGems target (.block kind.word labels ⟨structures⟩)) :
    allBareGems (.block kind) structures := by
  have hword : kind.word ≠ "gem" := by
    cases kind <;> decide
  rwa [bareGems, if_neg fun hgem => hword hgem.2, kindOf?_word] at h

/-! ## Drafts that render -/

/-- A draft in which no problem and no violation stands, at any depth. -/
def Renders (draft : Draft) : Prop := ∃ fragments, draft.toBlock.fragments = .ok fragments

lemma Renders.of_grown {draft next : Draft} (h : draft.Grown next) (hnext : Renders next) :
    Renders draft := by
  obtain ⟨fragments, hfragments⟩ := hnext
  obtain ⟨before, -, hbefore, -⟩ := h.fragments hfragments
  exact ⟨before, hbefore⟩

lemma not_renders_of_problem {draft : Draft} {error : CompileError}
    (h : draft.problem = some error) : ¬ Renders draft := by
  rintro ⟨fragments, hfragments⟩
  have hfails : draft.toBlock.fragments = .error error := Block.fragments_of_problem h
  exact nomatch hfragments.symm.trans hfails

lemma not_renders_refuse (site : Site) (draft : Draft) (refusal : Refusal) :
    ¬ Renders (site.refuse draft refusal) :=
  not_renders_of_problem Option.or_some

/-- A resource renders only if its block does. -/
lemma Renders.of_closeBlock {draft inner : Draft} (hinner : inner.resource.isSome)
    (h : Renders (draft.closeBlock inner)) : Renders inner := by
  obtain ⟨⟨origin, settings⟩, hresource⟩ := Option.isSome_iff_exists.mp hinner
  obtain ⟨fragments, hfragments⟩ := h
  cases hbody : inner.toBlock.fragments with
  | ok found => exact ⟨found, hbody⟩
  | error error =>
    exfalso
    have hrender : ∀ fragment, (Child.block origin settings inner.toBlock).render ≠ .ok fragment := by
      intro fragment hok
      have hfails : FailsFirst (inner.toBlock.fragments.map Fragment.concat) [error] := by
        rw [hbody]
        rfl
      have hnil := (settings.render_failsFirst origin inner.toBlock.hasDeclarations hfails).ok_iff.mp
        ⟨fragment, hok⟩
      simp at hnil
    unfold Draft.closeBlock at hfragments
    rw [hresource] at hfragments
    cases hproblem : draft.problem with
    | some problem =>
      have hfails : (draft.push (.block origin settings inner.toBlock)).toBlock.fragments =
          .error problem := Block.fragments_of_problem hproblem
      rw [hfails] at hfragments
      exact nomatch hfragments
    | none =>
      simp only [Draft.push, Draft.toBlock, hproblem] at hfragments
      change childFragments (draft.children ++ [_]) = _ at hfragments
      rw [childFragments_append] at hfragments
      obtain ⟨before, -, hfragments⟩ := ok_of_bind_eq_ok hfragments
      obtain ⟨added, hadded, -⟩ := ok_of_bind_eq_ok hfragments
      obtain ⟨fragment, hfragment, -⟩ := ok_of_bind_eq_ok hadded
      exact hrender fragment hfragment

/-! ## Declaring -/

lemma apply_grown (draft : Draft) (edit : Edit) : draft.Grown (edit.apply draft) := by
  cases edit with
  | echo message => exact .push draft _
  | command text => exact .command draft text
  | set setting => exact .set draft setting

lemma grant_grown (site : Site) (draft : Draft) (request : Request) :
    draft.Grown (site.grant draft request) := by
  have hedits : draft.Grown (request.edits.foldl Edit.apply draft) := by
    induction request.edits generalizing draft with
    | nil => exact .refl draft
    | cons edit edits ih => exact (apply_grown draft edit).trans (ih (edit.apply draft))
  unfold Site.grant
  split
  · exact hedits
  · exact hedits.trans (.defer _ _)

lemma declareStructure_grown (site : Site) (s : Structure) (draft : Draft) :
    draft.Grown (declareStructure site s draft) := by
  obtain ⟨key, e⟩ | ⟨word, labels, ⟨structures⟩⟩ := s
  · exact grant_grown site draft _
  · rw [declareStructure]
    split
    · exact .defer draft _
    · exact .push draft _
    · exact .set draft _
    · exact .closeBlock draft _

lemma declareStructures_grown (site : Site) (structures : List Structure) (draft : Draft) :
    draft.Grown (declareStructures site structures draft) := by
  induction structures generalizing draft with
  | nil => exact .refl draft
  | cons s structures ih => exact (declareStructure_grown site s draft).trans (ih _)

lemma declareStructures_like (site : Site) (structures : List Structure) (draft : Draft) :
    (declareStructures site structures draft).Like draft := by
  induction structures generalizing draft with
  | nil => exact ⟨rfl, rfl⟩
  | cons s structures ih => exact like_trans (ih _) (declareStructure_like site s draft)

lemma openLabelled_target (draft : Draft) (kind : BlockKind) (label : String) :
    (openLabelled draft kind label).target = .block kind := by
  have hopen : ∀ kind label, (draft.openBlock kind label).target = .block kind := by
    intro kind label
    simp [Draft.openBlock, Draft.target]
  unfold openLabelled
  split
  · next hlog => rw [(set_like _ _).2, hopen, hlog.1]
  · exact hopen kind label

lemma resource_isSome {draft : Draft} {kind : BlockKind} (h : draft.target = .block kind) :
    draft.resource.isSome := by
  unfold Draft.target at h
  cases hresource : draft.resource with
  | none =>
    rw [hresource] at h
    exact nomatch h
  | some resource => rfl

lemma grant_taken {site : Site} {key : String} {e : Expression} {draft next : Draft}
    {structures : List Structure}
    (h : Renders (site.grant draft (site.assignment draft.target key e)))
    (rest : Taken site.bindings structures
      (site.grant draft (site.assignment draft.target key e)) next) :
    Taken site.bindings (.assignment key e :: structures) draft next := by
  unfold Site.grant at h rest
  cases hrefusal : (site.assignment draft.target key e).refusal with
  | some refusal =>
    rw [hrefusal] at h
    exact absurd h (not_renders_refuse site _ refusal)
  | none =>
    rw [hrefusal] at rest
    unfold Site.assignment at hrefusal rest
    cases hvalue : site.evaluate key e with
    | error refusal =>
      rw [hvalue] at hrefusal
      exact nomatch hrefusal
    | ok value =>
      rw [hvalue] at hrefusal rest
      exact .assignment (value_of_evaluate hvalue) (knows_of_attributeRequest hrefusal) rest

section

variable (site : Site)

mutual

/-- A structure that leaves a draft which renders was taken. -/
lemma declareStructure_taken (s : Structure) {draft next : Draft} {structures : List Structure}
    (hbare : bareGems draft.target s) (h : Renders (declareStructure site s draft))
    (rest : Taken site.bindings structures (declareStructure site s draft) next) :
    Taken site.bindings (s :: structures) draft next := by
  obtain ⟨key, e⟩ | ⟨word, labels, ⟨body⟩⟩ := s
  · exact grant_taken h rest
  · rw [declareStructure] at h rest
    cases hopening : opening site draft.target word labels body with
    | error refusal =>
      rw [hopening] at h
      exact absurd h (not_renders_refuse site draft refusal)
    | ok opened =>
      rw [hopening] at h rest
      cases opened with
      | haltOnFailedCommand =>
        obtain ⟨rfl, hlabels, rfl⟩ := opening_eq_halt hopening
        exact .haltOnFailedCommand hlabels rest
      | gem name version =>
        obtain ⟨hgem, rfl, hversion⟩ := opening_eq_gem hopening
        rw [bareGems, if_pos hgem] at hbare
        obtain ⟨versions, hversions, hlast⟩ := versions_of_gemVersion hbare hversion
        obtain ⟨hstands, rfl⟩ := hgem
        rw [hlast, Option.or_none] at rest
        exact .gem hstands hversions rest
      | resource kind label preset =>
        obtain ⟨rfl, hlabels, hopened⟩ := opening_eq_resource hopening
        simp only [hopened] at h rest
        have htarget := openLabelled_target draft kind (labels.headD "")
        have hresource : (declareStructures site body
            (openLabelled draft kind (labels.headD ""))).resource.isSome :=
          resource_isSome ((declareStructures_like site body _).2.trans htarget)
        have hinside := declareStructures_taken body (htarget ▸ bareGems_block hbare)
          (h.of_closeBlock hresource)
        exact .resource hlabels hinside rest

lemma declareStructures_taken (structures : List Structure) {draft : Draft}
    (hbare : allBareGems draft.target structures)
    (h : Renders (declareStructures site structures draft)) :
    Taken site.bindings structures draft (declareStructures site structures draft) := by
  cases structures with
  | nil => exact .nil draft
  | cons s structures =>
    rw [allBareGems, Bool.and_eq_true] at hbare
    have hrest : Taken site.bindings structures (declareStructure site s draft)
        (declareStructures site structures (declareStructure site s draft)) := by
      apply declareStructures_taken structures
      · rw [(declareStructure_like site s draft).2]
        exact hbare.2
      · exact h
    exact declareStructure_taken s hbare.1 (h.of_grown (declareStructures_grown site structures _)) hrest

end

end

namespace Store

/-- Declares a root structure of a document. -/
def declareLocated (draft : Draft) (root : Option String × Structure) : Draft :=
  declareStructure (site draft.node root.1) root.2 draft

lemma declareLocated_grown (roots : List (Option String × Structure)) (draft : Draft) :
    draft.Grown (roots.foldl declareLocated draft) := by
  induction roots generalizing draft with
  | nil => exact .refl draft
  | cons root roots ih => exact (declareStructure_grown _ root.2 draft).trans (ih _)

end Store

/-! ## Blocks in gems -/

end SetupRecipe.Document
