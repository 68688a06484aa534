import Mathlib.Data.List.Forall2
import SetupRecipe.Proofs.LastingValues
import SetupRecipe.Proofs.Translation

/-!
# The order of attributes

The order of attributes in a block does not show in what the block renders to, except that the last
value of an attribute counts. The declarations of a block render in their order, and the directory
change of an execute block stands in front of them.
-/

namespace SetupRecipe

namespace Program

/-! ## Declarations in order -/

/-- What a statement adds to the declarations of a block; a helper may add anything. -/
inductive Declares (node : NodeData) (target : Target) (argument : String) :
    Statement → List Child → Prop where
  | echo {message : Operand} {origin : Origin} :
    Declares node target argument (.echo message) [.echo origin (message.eval node argument)]
  | haltOnFailedCommand {origin : Origin} :
    Declares node target argument .haltOnFailedCommand [.haltOnFailedCommand origin]
  | logTo {path : Operand} {origin : Origin} {block : Block} :
    Declares node target argument (.logTo path)
      [.block origin (.log ⟨some (path.eval node argument), none, none⟩) block]
  | block {kind : BlockKind} {label : Operand} {body : List Statement} {origin : Origin}
    {settings : Settings} {block : Block} (hkind : settings.kind = kind) :
    Declares node target argument (.block kind label body) [.block origin settings block]
  | command {text : Operand} (stands : target = .block .execute) :
    Declares node target argument (.command text) [.command (text.eval node argument)]
  | stray {text : Operand} (strays : target ≠ .block .execute) :
    Declares node target argument (.command text) []
  | set {a : Attribute Operand} : Declares node target argument (.set a) []
  | define {helped : Target} {name : String} {body : Program} :
    Declares node target argument (.define helped name body) []
  | call {name : String} {text : Operand} {children : List Child} :
    Declares node target argument (.call name text) children

lemma Draft.target_openBlock (draft : Draft) (kind : BlockKind) (label : String) :
    (draft.openBlock kind label).target = .block kind := by
  simp [openBlock, target]

lemma Draft.resource_of_target {draft : Draft} {kind : BlockKind} (h : draft.target = .block kind) :
    ∃ origin settings, draft.resource = some (origin, settings) ∧ settings.kind = kind := by
  unfold target at h
  cases hresource : draft.resource with
  | none =>
    rw [hresource] at h
    exact nomatch h
  | some resource =>
    rw [hresource] at h
    exact ⟨resource.1, resource.2, rfl, Target.block.inj h⟩

section

variable {call : Call}

lemma Statement.run_like (hcall : ∀ body given draft next, call body given draft = some next →
      next.Like draft) (argument : String) (statement : Statement) {draft next : Draft}
    (h : statement.run call argument draft = some next) : next.Like draft := by
  cases statement with
  | echo message =>
    obtain rfl := Option.some.inj h
    exact ⟨rfl, rfl⟩
  | haltOnFailedCommand =>
    obtain rfl := Option.some.inj h
    exact ⟨rfl, rfl⟩
  | logTo path =>
    obtain rfl := Option.some.inj h
    exact ⟨rfl, rfl⟩
  | block kind label body =>
    obtain ⟨inner, -, rfl⟩ := Option.map_eq_some_iff.mp h
    exact Document.closeBlock_like draft inner
  | command text =>
    obtain rfl := Option.some.inj h
    unfold Draft.command
    split
    · exact ⟨rfl, rfl⟩
    · exact ⟨rfl, rfl⟩
  | set setting =>
    obtain rfl := Option.some.inj h
    exact Document.set_like draft _
  | define target name body =>
    obtain rfl := Option.some.inj h
    exact ⟨rfl, rfl⟩
  | call name text =>
    rw [Statement.run] at h
    cases hhelper : draft.helper? name with
    | some body =>
      rw [hhelper] at h
      exact hcall body _ draft next h
    | none =>
      rw [hhelper] at h
      obtain rfl := Option.some.inj h
      exact ⟨rfl, rfl⟩

lemma runAll_like (hcall : ∀ body given draft next, call body given draft = some next →
      next.Like draft) (argument : String) (statements : List Statement) {draft next : Draft}
    (h : runAll call argument statements draft = some next) : next.Like draft := by
  induction statements generalizing draft with
  | nil =>
    obtain rfl := Option.some.inj h
    exact ⟨rfl, rfl⟩
  | cons statement statements ih =>
    obtain ⟨middle, hstep, hrest⟩ := runAll_cons_eq_some_iff.mp h
    exact Document.like_trans (ih hrest) (statement.run_like hcall argument hstep)

end

lemma callWithin_like (depth : Nat) : ∀ body given draft next,
    callWithin depth body given draft = some next → next.Like draft := by
  induction depth with
  | zero => exact fun _ _ _ _ h => nomatch h
  | succ depth ih => exact fun body given _ _ h => runAll_like ih given body h

/-- A block is run from its opening and becomes one declaration. -/
lemma Statement.run_block {depth : Nat} {argument : String} {kind : BlockKind} {label : Operand}
    {body : List Statement} {draft next : Draft}
    (h : (Statement.block kind label body).run (callWithin depth) argument draft = some next) :
    ∃ (inner : Draft) (origin : Origin) (settings : Settings),
      runAll (callWithin depth) argument body
        (draft.openBlock kind (label.eval draft.node argument)) = some inner ∧
      settings.kind = kind ∧
      next.children = draft.children ++ [.block origin settings inner.toBlock] := by
  obtain ⟨inner, hinner, rfl⟩ := Option.map_eq_some_iff.mp h
  have hlike := runAll_like (callWithin_like depth) argument body hinner
  obtain ⟨origin, settings, hresource, hkind⟩ :=
    Draft.resource_of_target (hlike.2.trans (Draft.target_openBlock draft kind _))
  exact ⟨inner, origin, settings, hinner, hkind, by simp [Draft.closeBlock, hresource, Draft.push]⟩

lemma Statement.run_declares {depth : Nat} (argument : String) (statement : Statement)
    {draft next : Draft} (h : statement.run (callWithin depth) argument draft = some next) :
    ∃ added, Declares draft.node draft.target argument statement added ∧
      next.children = draft.children ++ added := by
  cases statement with
  | echo message =>
    obtain rfl := Option.some.inj h
    exact ⟨_, .echo, rfl⟩
  | haltOnFailedCommand =>
    obtain rfl := Option.some.inj h
    exact ⟨_, .haltOnFailedCommand, rfl⟩
  | logTo path =>
    obtain rfl := Option.some.inj h
    exact ⟨_, .logTo, rfl⟩
  | block kind label body =>
    obtain ⟨inner, origin, settings, -, hkind, hchildren⟩ := Statement.run_block h
    exact ⟨[.block origin settings inner.toBlock], .block hkind, hchildren⟩
  | command text =>
    obtain rfl := Option.some.inj h
    by_cases hexecute : draft.target = .block .execute
    · refine ⟨_, .command hexecute, ?_⟩
      rw [Draft.command, if_pos hexecute]
      rfl
    · refine ⟨_, .stray hexecute, ?_⟩
      rw [Draft.command, if_neg hexecute, List.append_nil]
  | set setting =>
    obtain rfl := Option.some.inj h
    exact ⟨_, .set, (List.append_nil _).symm⟩
  | define target name body =>
    obtain rfl := Option.some.inj h
    exact ⟨_, .define, (List.append_nil _).symm⟩
  | call name text =>
    obtain ⟨added, hadded⟩ := (Statement.run_grown (callWithin_grows depth) argument _ h).children
    exact ⟨added, .call, hadded.symm⟩

/-- A block declares what its statements declare, in their order. -/
lemma runAll_declares {depth : Nat} (argument : String) (body : List Statement) {draft next : Draft}
    (h : runAll (callWithin depth) argument body draft = some next) :
    ∃ added, List.Forall₂ (Declares draft.node draft.target argument) body added ∧
      next.children = draft.children ++ added.flatten := by
  induction body generalizing draft with
  | nil =>
    obtain rfl := Option.some.inj h
    exact ⟨[], .nil, by simp⟩
  | cons statement body ih =>
    obtain ⟨middle, hstep, hrest⟩ := runAll_cons_eq_some_iff.mp h
    obtain ⟨hnode, htarget⟩ := statement.run_like (callWithin_like depth) argument hstep
    obtain ⟨first, hfirst, hmiddle⟩ := statement.run_declares argument hstep
    obtain ⟨added, hadded, hnext⟩ := ih hrest
    rw [hnode, htarget] at hadded
    refine ⟨first :: added, .cons hfirst hadded, ?_⟩
    rw [hnext, hmiddle, List.flatten_cons, List.append_assoc]

end Program

open Shell (Fragment)

/-! ## Fragments in order -/

lemma childFragments_flatten {added : List (List Child)} {fragments : List Fragment}
    (h : childFragments added.flatten = .ok fragments) :
    ∃ groups : List (List Fragment),
      List.Forall₂ (fun children group => childFragments children = .ok group) added groups ∧
        fragments = groups.flatten := by
  induction added generalizing fragments with
  | nil => exact ⟨[], .nil, (Except.ok.inj h).symm⟩
  | cons children added ih =>
    rw [List.flatten_cons, childFragments_append] at h
    obtain ⟨group, hgroup, h⟩ := ok_of_bind_eq_ok h
    obtain ⟨more, hmore, h⟩ := ok_of_bind_eq_ok h
    obtain ⟨groups, hgroups, rfl⟩ := ih hmore
    exact ⟨group :: groups, .cons hgroup hgroups, (Except.ok.inj h).symm⟩

/-- The commands of an execute block, with its directory change in front and its test around them. -/
def ExecuteSettings.wrap (s : ExecuteSettings) (commands : Fragment) : Fragment :=
  let all := s.changeDirectory ++ commands
  match s.guard? with
  | some test => Fragment.guarded test all
  | none => all

lemma ExecuteSettings.render_ok (s : ExecuteSettings) (commands : Fragment) :
    s.render (.ok commands) = .ok (s.wrap commands) := by
  unfold render wrap
  cases s.guard? with
  | none => rfl
  | some test => rfl

lemma Child.render_in_order {origin : Origin} {settings : Settings} {block : Block}
    {added : List (List Child)} (hchildren : block.children = added.flatten) {fragment : Fragment}
    (h : (Child.block origin settings block).render = .ok fragment) :
    ∃ groups : List (List Fragment),
      List.Forall₂ (fun children group => childFragments children = .ok group) added groups ∧
        settings.render origin block.hasDeclarations (.ok (Fragment.concat groups.flatten)) =
          .ok fragment := by
  obtain ⟨fragments, hfragments, h⟩ := Child.render_block_eq_ok h
  obtain ⟨owner, helpers, children, problem⟩ := block
  cases problem with
  | some error => exact nomatch hfragments
  | none =>
    change childFragments children = .ok fragments at hfragments
    rw [show children = added.flatten from hchildren] at hfragments
    obtain ⟨groups, hgroups, rfl⟩ := childFragments_flatten hfragments
    exact ⟨groups, hgroups, h⟩

namespace Program

/-- Blocks with the same declarations and with the same values that last are the same resource, which
renders to the same fragment or fails with the same error. What its statements declare renders in their
order, behind the directory change of an execute block. -/
theorem block_of_sameValues (depth : Nat) (argument : String) (kind : BlockKind) (label : Operand)
    {body other : List Statement} (h : SameValues body other) (draft : Draft) :
    (Statement.block kind label body).run (callWithin depth) argument draft =
      (Statement.block kind label other).run (callWithin depth) argument draft ∧
    ∀ next, (Statement.block kind label body).run (callWithin depth) argument draft = some next →
      ∃ (origin : Origin) (settings : Settings) (block : Block) (added : List (List Child)),
        next.children = draft.children ++ [.block origin settings block] ∧ settings.kind = kind ∧
        List.Forall₂ (Declares draft.node (.block kind) argument) body added ∧
        block.children = added.flatten ∧
        ∀ fragment, (Child.block origin settings block).render = .ok fragment →
          ∃ groups : List (List Fragment),
            List.Forall₂ (fun children group => childFragments children = .ok group) added groups ∧
            settings.render origin block.hasDeclarations (.ok (Fragment.concat groups.flatten)) =
              .ok fragment ∧
            ∀ s, settings = .execute s → fragment = s.wrap (Fragment.concat groups.flatten) := by
  constructor
  · simp only [Statement.run, h.runAll_eq (fun keep => callWithin_separates keep depth)]
  · intro next hrun
    obtain ⟨inner, origin, settings, hinner, hkind, hnext⟩ := Statement.run_block hrun
    obtain ⟨added, hadded, hchildren⟩ := runAll_declares argument body hinner
    rw [Draft.target_openBlock] at hadded
    refine ⟨origin, settings, inner.toBlock, added, hnext, hkind, hadded, hchildren, ?_⟩
    intro fragment hfragment
    obtain ⟨groups, hgroups, hrender⟩ := Child.render_in_order hchildren hfragment
    refine ⟨groups, hgroups, hrender, ?_⟩
    rintro s rfl
    exact Except.ok.inj (hrender.symm.trans (s.render_ok _))

/-- A block in which a directory is replaced before the last command. -/
def buildSteps : List Statement :=
  [.set (.cwd (.text "/tmp")), .command (.text "./configure"), .set (.cwd (.text "/srv")),
    .echo (.text "done"), .set (.creates (.text "/srv/bin"))]

def tidyBuildSteps : List Statement :=
  [.set (.creates (.text "/srv/bin")), .set (.cwd (.text "/srv")), .command (.text "./configure"),
    .echo (.text "done")]

lemma sameValues_buildSteps : SameValues buildSteps tidyBuildSteps := by
  let cwd : Attribute Operand := .cwd (.text "/srv")
  let creates : Attribute Operand := .creates (.text "/srv/bin")
  let configure : Statement := .command (.text "./configure")
  let finish : Statement := .echo (.text "done")
  have hreplaced : SameValues buildSteps [configure, .set cwd, finish, .set creates] :=
    .replaced (a := .cwd (.text "/tmp")) (by decide) [] rfl
  have hcwd : SameValues [.set cwd, configure, finish, .set creates]
      [configure, .set cwd, finish, .set creates] :=
    @SameValues.move cwd [configure] (by decide) [] [finish, .set creates]
  have hcreates : SameValues tidyBuildSteps [.set cwd, configure, finish, .set creates] :=
    @SameValues.move creates [.set cwd, configure, finish] (by decide) [] []
  exact (hreplaced.trans hcwd.symm).trans hcreates.symm

theorem block_of_sameValues_buildSteps :
    SameValues buildSteps tidyBuildSteps ∧
      (Statement.block .execute (.text "build") buildSteps).run (callWithin 0) "" (.recipe .empty) =
        (Statement.block .execute (.text "build") tidyBuildSteps).run (callWithin 0) ""
          (.recipe .empty) ∧
      ∃ (next : Draft) (origin : Origin) (settings : Settings) (block : Block)
        (added : List (List Child)) (fragment : Fragment),
        (Statement.block .execute (.text "build") buildSteps).run (callWithin 0) ""
          (.recipe .empty) = some next ∧ next.children = [.block origin settings block] ∧
        List.Forall₂ (Declares .empty (.block .execute) "") buildSteps added ∧
        block.children = added.flatten ∧
        (Child.block origin settings block).render = .ok fragment ∧
        fragment.text = "if ! test -e /srv/bin; then\n  cd /srv\n  ./configure\n  echo 'done'\nfi" := by
  obtain ⟨hsame, horder⟩ := block_of_sameValues 0 "" .execute (.text "build") sameValues_buildSteps
    (.recipe .empty)
  obtain ⟨origin, settings, block, added, hnext, -, hadded, hchildren, -⟩ := horder _ rfl
  have hrender : ∃ fragment, (Child.block origin settings block).render = .ok fragment ∧
      fragment.text = "if ! test -e /srv/bin; then\n  cd /srv\n  ./configure\n  echo 'done'\nfi" := by
    rw [← List.singleton_inj.mp hnext]
    exact ⟨_, rfl, by decide +kernel⟩
  obtain ⟨fragment, hfragment, htext⟩ := hrender
  exact ⟨sameValues_buildSteps, hsame, _, origin, settings, block, added, fragment, rfl, hnext,
    hadded, hchildren, hfragment, htext⟩

end Program

end SetupRecipe
