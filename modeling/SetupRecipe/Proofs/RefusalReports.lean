import SetupRecipe.Proofs.RefusedStructures

/-!
# Reports of refused structures

No refusal is lost. When a block refuses a structure, at whatever depth, there is no script; when a
root structure is refused, the first one of all documents is what is reported; and whatever else is
reported of a structure is about the first one that its block refused, in a document of the reported
location.
-/

namespace SetupRecipe.Document

open Config (Structure Body)
open Program (Draft Target)

/-! ## Places of structures -/

/-- Where structures stand. -/
inductive Place where
  | block (target : Target)
  | gem

def Place.Refuses (bindings : List (String × Config.Value)) : Place → Structure → Refusal → Prop
  | .block target => BlockRefuses bindings target
  | .gem => GemRefuses bindings

/-- The bodies of a document at any depth, with the places that they belong to. -/
inductive StandsIn (document : List Structure) : Place → List Structure → Prop where
  | roots : StandsIn document (.block .recipe) document
  | resource {target : Target} {kind : BlockKind} {labels : List String}
    {structures body : List Structure} (outer : StandsIn document (.block target) structures)
    (mem : .block kind.word labels ⟨body⟩ ∈ structures) :
    StandsIn document (.block (.block kind)) body
  | gem {labels : List String} {structures body : List Structure}
    (outer : StandsIn document (.block (.block .gemfile)) structures)
    (mem : .block "gem" labels ⟨body⟩ ∈ structures) : StandsIn document .gem body

namespace Store

/-- The store of some documents, each with the path that it came from. -/
def ofDocuments (documents : List (Option String × Body)) : Store :=
  documents.foldl (fun store document => store.insert document.2 document.1) empty

/-- The root structures of documents in load order. -/
def rootsOf (documents : List (Option String × Body)) : List (Option String × Structure) :=
  documents.flatMap fun document => document.2.structures.map fun s => (document.1, s)

/-- The numbers of a store are those of its documents. -/
def Numbered (store : Store) : Prop := ∀ root ∈ store.structures, root.1 < store.sources.length

lemma Numbered.insert {store : Store} (h : store.Numbered) (body : Body) (source : Option String) :
    (store.insert body source).Numbered := by
  intro root hroot
  simp only [Store.insert, List.mem_append, List.mem_map, List.length_append,
    List.length_singleton] at hroot ⊢
  rcases hroot with hold | ⟨s, -, rfl⟩
  · exact Nat.lt_succ_of_lt (h root hold)
  · exact Nat.lt_succ_self _

lemma Numbered.located_insert {store : Store} (h : store.Numbered) (body : Body)
    (source : Option String) :
    (store.insert body source).located =
      store.located ++ body.structures.map fun s => (source, s) := by
  have hold : ∀ root ∈ store.structures,
      (store.sources ++ [source]).getD root.1 none = store.sources.getD root.1 none := by
    intro root hroot
    simp [List.getD_eq_getElem?_getD, List.getElem?_append_left (h root hroot)]
  have hnew : (store.sources ++ [source]).getD store.sources.length none = source := by
    simp [List.getD_eq_getElem?_getD]
  simp only [located, Store.insert, List.map_append, List.map_map]
  congr 1
  · exact List.map_congr_left fun root hroot => by simp only [hold root hroot]
  · exact List.map_congr_left fun s _ => by simp only [Function.comp_apply, hnew]

lemma located_ofDocuments (documents : List (Option String × Body)) :
    (ofDocuments documents).located = rootsOf documents := by
  have hfold : ∀ store : Store, store.Numbered →
      (documents.foldl (fun store document => store.insert document.2 document.1) store).located =
        store.located ++ rootsOf documents := by
    induction documents with
    | nil => intro store _; simp [rootsOf]
    | cons document documents ih =>
      intro store h
      rw [List.foldl_cons, ih _ (h.insert _ _), h.located_insert]
      simp [rootsOf]
  have hempty : empty.Numbered := fun root hroot => absurd hroot List.not_mem_nil
  simpa [ofDocuments, located, empty] using hfold empty hempty

lemma declare_ofDocuments (documents : List (Option String × Body)) (draft : Draft) :
    (ofDocuments documents).declare draft = (rootsOf documents).foldl declareLocated draft := by
  rw [declare, located_ofDocuments]
  rfl

lemma evaluate_ofDocuments (documents : List (Option String × Body)) (node : NodeData) :
    (ofDocuments documents).evaluate node =
      ((rootsOf documents).foldl declareLocated (.recipe node)).toBlock := by
  rw [evaluate, declare_ofDocuments]

end Store

/-! ## Declaring on a new block -/

/-- A block on which nothing was declared yet. -/
structure Opened (node : NodeData) (target : Target) (draft : Draft) : Prop where
  node : draft.node = node
  target : draft.target = target
  children : draft.children = []
  problem : draft.problem = none

lemma openLabelled_opened (draft : Draft) (kind : BlockKind) (label : String) :
    Opened draft.node (.block kind) (openLabelled draft kind label) := by
  refine ⟨?_, openLabelled_target draft kind label, ?_, ?_⟩
  all_goals
    unfold openLabelled
    split <;> rfl

namespace Store

/-- The variables that the structures of every document see. -/
def bindings (node : NodeData) : List (String × Config.Value) := [("node", .ofNodeData node)]

variable {draft : Draft} {node : NodeData} {target : Target}
  {roots : List (Option String × Structure)}

lemma declareLocated_like (roots : List (Option String × Structure)) (draft : Draft) :
    (roots.foldl declareLocated draft).Like draft := by
  induction roots generalizing draft with
  | nil => exact ⟨rfl, rfl⟩
  | cons root roots ih => exact like_trans (ih _) (declareStructure_like _ root.2 draft)

/-- The structures of a body are declared like the roots of a single document. -/
lemma declareStructures_eq (hnode : draft.node = node) (source : Option String)
    (structures : List Structure) :
    declareStructures (site node source) structures draft =
      (structures.map fun s => (source, s)).foldl declareLocated draft := by
  have hempty : empty.Numbered := fun root hroot => absurd hroot List.not_mem_nil
  rw [← hnode, ← declare_single, declare, hempty.located_insert]
  rfl

lemma declareLocated_problem_eq (roots : List (Option String × Structure)) (draft : Draft) :
    (roots.foldl declareLocated draft).problem =
      draft.problem.or (roots.findSome? fun root =>
        (refusal? (site draft.node root.1) draft.target root.2).map fun refusal =>
          .invalidDeclaration (locationText root.1) refusal.text) := by
  induction roots generalizing draft with
  | nil => exact (Option.or_none).symm
  | cons root roots ih =>
    obtain ⟨hnode, htarget⟩ := declareStructure_like (site draft.node root.1) root.2 draft
    rw [List.foldl_cons, ih, declareLocated, hnode, htarget, declareStructure_problem,
      List.findSome?_cons, Option.or_assoc]
    congr 1
    cases refusal? (site draft.node root.1) draft.target root.2 <;> rfl

lemma declareLocated_problem_iff (h : Opened node target draft) {error : CompileError} :
    (roots.foldl declareLocated draft).problem = some error ↔
      ∃ root refusal,
        FirstRefused (fun root => BlockRefuses (bindings node) target root.2) roots root refusal ∧
          error = .invalidDeclaration (locationText root.1) refusal.text := by
  have hrefuses : ∀ (root : Option String × Structure) refusal,
      refusal? (site node root.1) target root.2 = some refusal ↔
        BlockRefuses (bindings node) target root.2 refusal :=
    fun root refusal => refusal?_eq_some
  rw [declareLocated_problem_eq, h.node, h.target, h.problem, Option.none_or,
    List.findSome?_eq_some_iff]
  simp only [Option.map_eq_some_iff, Option.map_eq_none_iff]
  simp only [FirstRefused, Option.eq_none_iff_forall_ne_some, ne_eq, hrefuses]
  constructor
  · rintro ⟨before, root, after, hroots, ⟨refusal, hrefusal, rfl⟩, hbefore⟩
    exact ⟨root, refusal, ⟨before, after, hroots, hbefore, hrefusal⟩, rfl⟩
  · rintro ⟨root, refusal, ⟨before, after, hroots, hbefore, hrefusal⟩, rfl⟩
    exact ⟨before, root, after, hroots, ⟨refusal, hrefusal, rfl⟩, hbefore⟩

end Store

/-! ## Nested blocks -/

lemma word_injective {a b : BlockKind} (h : a.word = b.word) : a = b := by
  have hsome := kindOf?_word b
  rw [← h, kindOf?_word] at hsome
  exact Option.some.inj hsome

lemma opening_word {site : Site} {target : Target} {kind : BlockKind} {labels : List String}
    {structures : List Structure} {opened : Opening}
    (h : opening site target kind.word labels structures = .ok opened) :
    ∃ label preset, opened = .resource kind label preset ∧ ∀ draft,
      preset.foldl Draft.set (draft.openBlock kind label) =
        openLabelled draft kind (labels.headD "") := by
  cases opened with
  | haltOnFailedCommand =>
    obtain ⟨hword, -⟩ := opening_eq_halt h
    cases kind <;> exact absurd hword (by decide)
  | gem name version =>
    obtain ⟨⟨-, hword⟩, -⟩ := opening_eq_gem h
    cases kind <;> exact absurd hword (by decide)
  | resource other label preset =>
    obtain ⟨hword, -, hopened⟩ := opening_eq_resource h
    obtain rfl := word_injective hword
    exact ⟨label, preset, rfl, hopened⟩

lemma not_renders_of_refuses {site : Site} {s : Structure} {draft : Draft} {refusal : Refusal}
    (h : BlockRefuses site.bindings draft.target s refusal) :
    ¬ Renders (declareStructure site s draft) := by
  have hproblem := declareStructure_problem site s draft
  rw [refusal?_eq_some.mpr h, Option.map_some, Option.or_some] at hproblem
  exact not_renders_of_problem hproblem

lemma Renders.of_resource {site : Site} {kind : BlockKind} {labels : List String}
    {body : List Structure} {draft : Draft}
    (h : Renders (declareStructure site (.block kind.word labels ⟨body⟩) draft)) :
    Renders (declareStructures site body (openLabelled draft kind (labels.headD ""))) := by
  rw [declareStructure] at h
  cases hopening : opening site draft.target kind.word labels body with
  | error refusal =>
    rw [hopening] at h
    exact absurd h (not_renders_refuse site draft refusal)
  | ok opened =>
    obtain ⟨label, preset, rfl, hopened⟩ := opening_word hopening
    rw [hopening] at h
    simp only [hopened] at h
    have htarget := (declareStructures_like site body _).2.trans
      (openLabelled_target draft kind (labels.headD ""))
    exact h.of_closeBlock (resource_isSome htarget)

lemma Renders.of_mem {roots : List (Option String × Structure)} {draft : Draft}
    {root : Option String × Structure} (h : Renders (roots.foldl Store.declareLocated draft))
    (hmem : root ∈ roots) :
    ∃ start : Draft, start.Like draft ∧ Renders (Store.declareLocated start root) := by
  obtain ⟨before, after, rfl⟩ := List.append_of_mem hmem
  rw [List.foldl_append, List.foldl_cons] at h
  exact ⟨_, Store.declareLocated_like before draft,
    h.of_grown (Store.declareLocated_grown after _)⟩

lemma mem_children_grant {site : Site} {draft : Draft} {request : Request} {origin : Origin}
    {settings : Settings} {body : Block}
    (h : .block origin settings body ∈ (site.grant draft request).children) :
    .block origin settings body ∈ draft.children := by
  have happly : ∀ (draft : Draft) (edit : Edit),
      .block origin settings body ∈ (edit.apply draft).children →
        .block origin settings body ∈ draft.children := by
    intro draft edit h
    cases edit with
    | echo message => simpa [Edit.apply, Draft.echo, Draft.push] using h
    | set setting => exact h
    | command text =>
      change _ ∈ (draft.command text).children at h
      unfold Draft.command at h
      split at h
      · simpa [Draft.push] using h
      · exact h
  have hedits : ∀ (edits : List Edit) (draft : Draft),
      .block origin settings body ∈ (edits.foldl Edit.apply draft).children →
        .block origin settings body ∈ draft.children := by
    intro edits
    induction edits with
    | nil => exact fun _ h => h
    | cons edit edits ih => exact fun draft h => happly draft edit (ih _ h)
  unfold Site.grant at h
  split at h
  · exact hedits _ draft h
  · exact hedits _ draft h

/-- A block that a structure adds was declared from the body of the structure. -/
lemma mem_children_declareStructure {site : Site} {s : Structure} {draft : Draft}
    {origin : Origin} {settings : Settings} {body : Block}
    (h : .block origin settings body ∈ (declareStructure site s draft).children) :
    .block origin settings body ∈ draft.children ∨
      ∃ (kind : BlockKind) (labels : List String) (structures : List Structure),
        s = .block kind.word labels ⟨structures⟩ ∧
          body = (declareStructures site structures
            (openLabelled draft kind (labels.headD ""))).toBlock := by
  obtain ⟨key, e⟩ | ⟨word, labels, ⟨structures⟩⟩ := s
  · exact Or.inl (mem_children_grant h)
  · rw [declareStructure] at h
    cases hopening : opening site draft.target word labels structures with
    | error refusal =>
      rw [hopening] at h
      exact Or.inl h
    | ok opened =>
      rw [hopening] at h
      cases opened with
      | haltOnFailedCommand =>
        simp only [Draft.haltOnFailedCommand, Draft.push, List.mem_append, List.mem_singleton,
          reduceCtorEq, or_false] at h
        exact Or.inl h
      | gem name version => exact Or.inl h
      | resource kind label preset =>
        obtain ⟨rfl, -, hopened⟩ := opening_eq_resource hopening
        simp only [hopened, Draft.closeBlock] at h
        split at h
        · simp only [Draft.push, List.mem_append, List.mem_singleton, Child.block.injEq] at h
          rcases h with hold | ⟨-, -, rfl⟩
          · exact Or.inl hold
          · exact Or.inr ⟨kind, labels, structures, rfl, rfl⟩
        · exact Or.inl h

namespace Store

variable {node : NodeData} {target : Target} {draft : Draft}

lemma mem_children_declareLocated {roots : List (Option String × Structure)} {origin : Origin}
    {settings : Settings} {body : Block}
    (h : .block origin settings body ∈ (roots.foldl declareLocated draft).children) :
    .block origin settings body ∈ draft.children ∨
      ∃ (source : Option String) (kind : BlockKind) (labels : List String)
        (structures : List Structure) (opened : Draft),
        (source, .block kind.word labels ⟨structures⟩) ∈ roots ∧
          Opened draft.node (.block kind) opened ∧
          body = (declareStructures (site draft.node source) structures opened).toBlock := by
  induction roots generalizing draft with
  | nil => exact Or.inl h
  | cons root roots ih =>
    have hlike := declareStructure_like (site draft.node root.1) root.2 draft
    rcases ih h with hfirst | ⟨source, kind, labels, structures, opened, hmem, hopened, hbody⟩
    · rcases mem_children_declareStructure hfirst with hold | ⟨kind, labels, structures, hs, hbody⟩
      · exact Or.inl hold
      · refine Or.inr ⟨root.1, kind, labels, structures, _, ?_,
          openLabelled_opened draft kind (labels.headD ""), hbody⟩
        rw [← hs]
        exact List.mem_cons_self
    · have hnode : (declareLocated draft root).node = draft.node := hlike.1
      rw [hnode] at hopened hbody
      exact Or.inr ⟨source, kind, labels, structures, opened, List.mem_cons_of_mem _ hmem,
        hopened, hbody⟩

/-- What is reported of a body and the blocks in it is about a structure that is the first refused one
of its own body. -/
lemma reported_of_violation {document : List Structure} {source : Option String} {block : Block}
    {error : CompileError} (h : block.Violation error) {location reason : String}
    (herror : error = .invalidDeclaration location reason) {structures : List Structure}
    (hopened : Opened node target draft) (hstands : StandsIn document (.block target) structures)
    (hblock : block = (declareStructures (site node source) structures draft).toBlock) :
    ∃ place body s refusal, StandsIn document place body ∧
      FirstRefused (place.Refuses (bindings node)) body s refusal ∧
      location = locationText source ∧ reason = refusal.text := by
  -- on the way to the violation, the block in the tree and the body in the document go together
  induction h generalizing target structures draft with
  | problem hproblem =>
    subst hblock herror
    rw [declareStructures_eq hopened.node] at hproblem
    obtain ⟨root, refusal, hfirst, hreported⟩ := (declareLocated_problem_iff hopened).mp hproblem
    obtain ⟨hsource, hfirst⟩ := hfirst.of_located
    obtain ⟨rfl, rfl⟩ := CompileError.invalidDeclaration.inj hreported
    exact ⟨.block target, structures, root.2, refusal, hstands, hfirst, by rw [hsource], rfl⟩
  | resource child h =>
    -- nothing that is wrong with settings is reported as a declaration
    subst herror
    cases h
  | nested child h ih =>
    subst hblock
    rw [declareStructures_eq hopened.node] at child
    rcases mem_children_declareLocated child with
      hold | ⟨source', kind, labels, inner, opened, hmem, hinner, hbody⟩
    · change _ ∈ draft.children at hold
      rw [hopened.children] at hold
      exact absurd hold List.not_mem_nil
    · obtain ⟨s, hs, hroot⟩ := List.mem_map.mp hmem
      obtain ⟨rfl, rfl⟩ := Prod.mk.inj hroot
      rw [hopened.node] at hinner hbody
      exact ih herror hinner (.resource hstands hs) hbody

/-! ## Documents -/

variable {documents : List (Option String × Body)} {document : Option String × Body}

lemma mem_rootsOf {root : Option String × Structure} :
    root ∈ rootsOf documents ↔
      ∃ document ∈ documents, root.1 = document.1 ∧ root.2 ∈ document.2.structures := by
  obtain ⟨source, s⟩ := root
  simp only [rootsOf, List.mem_flatMap, List.mem_map, Prod.mk.injEq]
  constructor
  · rintro ⟨document, hdocument, t, ht, rfl, rfl⟩
    exact ⟨document, hdocument, rfl, ht⟩
  · rintro ⟨document, hdocument, rfl, hs⟩
    exact ⟨document, hdocument, s, hs, rfl, rfl⟩

lemma renders_of_standsIn (hdocument : document ∈ documents)
    (h : Renders ((rootsOf documents).foldl declareLocated (.recipe node))) {place : Place}
    {structures : List Structure} (hstands : StandsIn document.2.structures place structures)
    (hplace : place = .block target) {s : Structure} (hs : s ∈ structures) :
    ∃ draft : Draft, draft.node = node ∧ draft.target = target ∧
      Renders (declareStructure (site node document.1) s draft) := by
  induction hstands generalizing target s with
  | roots =>
    obtain rfl := Place.block.inj hplace
    have hroot : (document.1, s) ∈ rootsOf documents :=
      mem_rootsOf.mpr ⟨document, hdocument, rfl, hs⟩
    obtain ⟨draft, ⟨hnode, htarget⟩, hrenders⟩ := h.of_mem hroot
    rw [declareLocated, hnode] at hrenders
    exact ⟨draft, hnode, htarget, hrenders⟩
  | @resource _ kind labels _ body outer mem ih =>
    obtain rfl := Place.block.inj hplace
    obtain ⟨outside, houtside, -, hresource⟩ := ih rfl mem
    have hopened := openLabelled_opened outside kind (labels.headD "")
    rw [houtside] at hopened
    have hbody := hresource.of_resource
    rw [declareStructures_eq hopened.node] at hbody
    have hlocated : (document.1, s) ∈ body.map fun s => (document.1, s) :=
      List.mem_map.mpr ⟨s, hs, rfl⟩
    obtain ⟨draft, ⟨hnode, htarget⟩, hrenders⟩ := hbody.of_mem hlocated
    rw [hopened.node] at hnode
    rw [hopened.target] at htarget
    rw [declareLocated, hnode] at hrenders
    exact ⟨draft, hnode, htarget, hrenders⟩
  | gem _ _ _ => exact nomatch hplace

lemma not_refused_of_renders (hdocument : document ∈ documents)
    (h : Renders ((rootsOf documents).foldl declareLocated (.recipe node))) {place : Place}
    {structures : List Structure} (hstands : StandsIn document.2.structures place structures)
    {s : Structure} (hs : s ∈ structures) (refusal : Refusal) :
    ¬ place.Refuses (bindings node) s refusal := by
  intro hrefused
  cases place with
  | block target =>
    obtain ⟨draft, -, htarget, hrenders⟩ := renders_of_standsIn hdocument h hstands rfl hs
    have hblock : BlockRefuses (bindings node) draft.target s refusal := by
      rw [htarget]
      exact hrefused
    exact not_renders_of_refuses hblock hrenders
  | gem =>
    -- the gem around a refused attribute is refused itself, by the gemfile
    cases hstands with
    | @gem labels outside _ outer mem =>
      have hgem : ∃ r, BlockRefuses (bindings node) (.block .gemfile)
          (.block "gem" labels ⟨structures⟩) r := by
        by_cases hlabels : ∃ name, labels = [name]
        · obtain ⟨name, rfl⟩ := hlabels
          obtain ⟨first, r, hfirst⟩ := FirstRefused.exists_of_mem hs hrefused
          exact ⟨r, .gem hfirst⟩
        · exact ⟨_, .gemLabels fun name hname => hlabels ⟨name, hname⟩⟩
      obtain ⟨r, hr⟩ := hgem
      obtain ⟨draft, -, htarget, hrenders⟩ := renders_of_standsIn hdocument h outer rfl mem
      exact not_renders_of_refuses (htarget ▸ hr) hrenders

/-- A structure that is refused anywhere keeps the documents from being compiled. The first refused
root structure of all documents is what is reported then, with the document that it is from. Where no
root structure is refused, a report of a structure is about the first refused one of some body, again
with the document that it is from. -/
theorem refusals_reported (documents : List (Option String × Body)) (node : NodeData) :
    (∀ document ∈ documents, ∀ place structures, StandsIn document.2.structures place structures →
      ∀ s ∈ structures, ∀ refusal, place.Refuses (bindings node) s refusal →
        ∃ error, ((ofDocuments documents).evaluate node).script = .error error) ∧
    (∀ root ∈ rootsOf documents, ∀ refusal, BlockRefuses (bindings node) .recipe root.2 refusal →
      ∃ first reason,
        FirstRefused (fun root => BlockRefuses (bindings node) .recipe root.2) (rootsOf documents)
          first reason ∧
        ((ofDocuments documents).evaluate node).script =
          .error (.invalidDeclaration (locationText first.1) reason.text)) ∧
    ∀ location reason,
      ((ofDocuments documents).evaluate node).script =
          .error (.invalidDeclaration location reason) →
        (∀ root ∈ rootsOf documents, ∀ refusal,
          ¬ BlockRefuses (bindings node) .recipe root.2 refusal) →
        ∃ document ∈ documents, ∃ place structures s refusal,
          StandsIn document.2.structures place structures ∧
          FirstRefused (place.Refuses (bindings node)) structures s refusal ∧
          location = locationText document.1 ∧ reason = refusal.text := by
  have hopened : Opened node .recipe (.recipe node) := ⟨rfl, rfl, rfl, rfl⟩
  rw [evaluate_ofDocuments]
  refine ⟨?anywhere, ?root, ?nested⟩
  case anywhere =>
    intro document hdocument place structures hstands s hs refusal hrefused
    cases hscript : ((rootsOf documents).foldl declareLocated (.recipe node)).toBlock.script with
    | error error => exact ⟨error, rfl⟩
    | ok script =>
      obtain ⟨fragments, hfragments, -⟩ := ok_of_map_eq_ok hscript
      exact absurd hrefused
        (not_refused_of_renders hdocument ⟨fragments, hfragments⟩ hstands hs refusal)
  case root =>
    intro root hroot refusal hrefused
    have hexists : ∃ first reason,
        FirstRefused (fun root => BlockRefuses (bindings node) .recipe root.2) (rootsOf documents)
          first reason := FirstRefused.exists_of_mem hroot hrefused
    obtain ⟨first, reason, hfirst⟩ := hexists
    have hproblem := (declareLocated_problem_iff hopened).mpr ⟨first, reason, hfirst, rfl⟩
    exact ⟨first, reason, hfirst, Block.script_of_problem hproblem⟩
  case nested =>
    intro location reason hscript hroots
    have hwalk := (Block.script_failsFirst _).error_iff _ |>.mp hscript
    have hviolation := Block.mem_walk_iff_violation.mp (List.mem_of_mem_head? hwalk)
    cases hviolation with
    | problem hproblem =>
      obtain ⟨root, refusal, ⟨before, after, hitems, -, hrefused⟩, -⟩ :=
        (declareLocated_problem_iff hopened).mp hproblem
      have hroot : root ∈ rootsOf documents := by
        rw [hitems]
        exact List.mem_append_right before List.mem_cons_self
      exact absurd hrefused (hroots root hroot refusal)
    | resource child h => cases h
    | nested child h =>
      rcases mem_children_declareLocated child with
        hold | ⟨source, kind, labels, structures, inner, hmem, hinner, hbody⟩
      · exact absurd hold List.not_mem_nil
      · obtain ⟨document, hdocument, rfl, hs⟩ := mem_rootsOf.mp hmem
        exact ⟨document, hdocument,
          reported_of_violation h rfl hinner (.resource .roots hs) hbody⟩

/-- A file with an unknown block in a block. -/
def unknownService : Option String × Body :=
  (some "web.galley.hcl", ⟨[.block "directory" ["/srv/app"] ⟨[]⟩,
    .block "execute" ["packages"] ⟨[.assignment "command" (.string "apt update"),
      .block "service" ["nginx"] ⟨[]⟩]⟩]⟩)

def unknownColour : Option String × Body := (none, ⟨[.assignment "colour" (.string "blue")]⟩)

theorem refusals_reported_web :
    (∃ first reason,
      FirstRefused (fun root => BlockRefuses (bindings .empty) .recipe root.2)
        (rootsOf [unknownService, unknownColour]) first reason ∧
      .invalidDeclaration (locationText first.1) reason.text =
        CompileError.invalidDeclaration "<stdin>" "unknown attribute `colour`") ∧
    ∃ document ∈ [unknownService], ∃ place structures s refusal,
      StandsIn document.2.structures place structures ∧
      FirstRefused (place.Refuses (bindings .empty)) structures s refusal ∧
      "web.galley.hcl" = locationText document.1 ∧ "unknown block `service`" = refusal.text := by
  constructor
  · have hrefused : BlockRefuses (bindings .empty) .recipe
        (.assignment "colour" (.string "blue")) (.unknownInRecipe "colour") := by
      have hrefusal : refusal? (site .empty none) .recipe (.assignment "colour" (.string "blue")) =
          some (.unknownInRecipe "colour") := rfl
      exact refusal?_eq_some.mp hrefusal
    have hroot : (none, .assignment "colour" (.string "blue")) ∈
        rootsOf [unknownService, unknownColour] := mem_rootsOf.mpr
      ⟨unknownColour, List.mem_cons_of_mem _ List.mem_cons_self, rfl, List.mem_cons_self⟩
    have hscript : ((ofDocuments [unknownService, unknownColour]).evaluate .empty).script =
        .error (.invalidDeclaration "<stdin>" "unknown attribute `colour`") := rfl
    obtain ⟨-, hroots, -⟩ := refusals_reported [unknownService, unknownColour] .empty
    obtain ⟨first, reason, hfirst, hreported⟩ := hroots _ hroot _ hrefused
    exact ⟨first, reason, hfirst, Except.error.inj (hreported.symm.trans hscript)⟩
  · obtain ⟨-, -, hnested⟩ := refusals_reported [unknownService] .empty
    apply hnested
    · rfl
    · intro root hroot refusal hrefused
      have hrefusal : refusal? (site .empty root.1) .recipe root.2 = some refusal :=
        refusal?_eq_some.mpr hrefused
      have hnone : ∀ root ∈ rootsOf [unknownService],
          refusal? (site .empty root.1) .recipe root.2 = none := by
        intro root hroot
        simp only [rootsOf, unknownService, List.flatMap_cons, List.flatMap_nil, List.map_cons,
          List.map_nil, List.append_nil, List.mem_cons, List.not_mem_nil, or_false] at hroot
        rcases hroot with rfl | rfl
        · rfl
        · rfl
      rw [hnone root hroot] at hrefusal
      exact nomatch hrefusal

end Store

end SetupRecipe.Document
