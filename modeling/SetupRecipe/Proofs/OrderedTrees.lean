import SetupRecipe.Proofs.Moments

/-!
# Trees while they are declared

At every moment of a run the tree that was declared so far is in order: resources know their place
among the resources of their block and their own kind, blocks know the resource that they belong to,
and only execute blocks have commands. What a block has recorded as its problem stays as it is until
the run ends.
-/

namespace SetupRecipe

/-! ## Blocks in trees -/

/-- Whether the kind that a resource is said to have is the kind that it has. -/
def Child.OfKind : Child → Prop
  | command _ => True
  | echo origin _ => origin.kind = .echo
  | haltOnFailedCommand origin => origin.kind = .haltOnFailedCommand
  | block origin settings _ => origin.kind = .block settings.kind

/-- The block that stands at a place of a tree: the numbers of the declarations that lead to it. -/
def Block.at? : Block → List Nat → Option Block
  | block, [] => some block
  | block, i :: path => (block.children[i]?.bind Child.body?).bind fun body => body.at? path

structure Block.Ordered (block : Block) : Prop where
  positions : ∀ (i : Nat) (origin : Origin), block.resources[i]? = some origin → origin.position = i
  kinds : ∀ child ∈ block.children, child.OfKind
  owners : ∀ origin settings body, .block origin settings body ∈ block.children →
    body.owner = some origin
  commands : ∀ text, .command text ∈ block.children →
    ∃ origin, block.owner = some origin ∧ origin.kind = .block .execute

/-- Every block keeps its place, its owner and its problem. -/
def Block.Persists (block later : Block) : Prop :=
  ∀ path inner, block.at? path = some inner → ∃ next, later.at? path = some next ∧
    next.owner = inner.owner ∧ ∀ error, inner.problem = some error → next.problem = some error

namespace Block

/-- A declaration that may follow those of a block. -/
structure Takes (block : Block) (child : Child) : Prop where
  position : ∀ origin, child.origin? = some origin → origin.position = block.resources.length
  kind : child.OfKind
  owner : ∀ origin settings body, child = .block origin settings body → body.owner = some origin
  command : ∀ text, child = .command text →
    ∃ origin, block.owner = some origin ∧ origin.kind = .block .execute

def push (block : Block) (child : Child) : Block := { block with children := block.children ++ [child] }

lemma Ordered.push {block : Block} {child : Child} (h : block.Ordered) (hchild : block.Takes child) :
    (block.push child).Ordered where
  positions := by
    intro i origin horigin
    have hresources : (block.push child).resources = block.resources ++ child.origin?.toList := by
      cases hchild : child.origin? <;> simp [Block.push, resources, hchild]
    rw [hresources] at horigin
    by_cases hi : i < block.resources.length
    · rw [List.getElem?_append_left hi] at horigin
      exact h.positions i origin horigin
    · have hle := Nat.le_of_not_lt hi
      rw [List.getElem?_append_right hle] at horigin
      obtain ⟨hlast, -⟩ := List.getElem?_eq_some_iff.mp horigin
      have hlength : child.origin?.toList.length ≤ 1 := Option.length_toList_le
      have hnew := hchild.position origin (Option.mem_toList.mp (List.mem_of_getElem? horigin))
      omega
  kinds := by
    intro other hother
    rcases List.mem_append.mp hother with hold | hnew
    · exact h.kinds other hold
    · rw [List.mem_singleton.mp hnew]
      exact hchild.kind
  owners := by
    intro origin settings body hbody
    rcases List.mem_append.mp hbody with hold | hnew
    · exact h.owners origin settings body hold
    · exact hchild.owner origin settings body (List.mem_singleton.mp hnew).symm
  commands := by
    intro text htext
    rcases List.mem_append.mp htext with hold | hnew
    · exact h.commands text hold
    · exact hchild.command text (List.mem_singleton.mp hnew).symm

/-- Declarations that come later leave the places in front of them alone. -/
lemma at?_of_extends {block later inner : Block} (h : block.children <+: later.children) {i : Nat}
    {path : List Nat} (hinner : block.at? (i :: path) = some inner) :
    later.at? (i :: path) = some inner := by
  obtain ⟨added, hadded⟩ := h
  rw [at?] at hinner ⊢
  obtain ⟨body, hbody, hinner⟩ := Option.bind_eq_some_iff.mp hinner
  obtain ⟨child, hchild, hbody⟩ := Option.bind_eq_some_iff.mp hbody
  obtain ⟨hi, -⟩ := List.getElem?_eq_some_iff.mp hchild
  rw [← hadded, List.getElem?_append_left hi, hchild, Option.bind_some, hbody, Option.bind_some]
  exact hinner

lemma at?_push_length (block : Block) (child : Child) (path : List Nat) :
    (block.push child).at? (block.children.length :: path) =
      child.body?.bind fun body => body.at? path := by
  rw [at?, push, List.getElem?_append_right (Nat.le_refl _), Nat.sub_self]
  rfl

lemma at?_push {block inner : Block} {child : Child} {i : Nat} {path : List Nat}
    (h : (block.push child).at? (i :: path) = some inner) :
    block.at? (i :: path) = some inner ∨ i = block.children.length ∧
      ∃ body, child.body? = some body ∧ body.at? path = some inner := by
  by_cases hi : i < block.children.length
  · left
    rw [at?, push, List.getElem?_append_left hi] at h
    exact h
  · right
    obtain rfl : i = block.children.length := by
      obtain ⟨body, hbody, -⟩ := Option.bind_eq_some_iff.mp h
      obtain ⟨other, hother, -⟩ := Option.bind_eq_some_iff.mp hbody
      obtain ⟨hlt, -⟩ := List.getElem?_eq_some_iff.mp hother
      simp only [push, List.length_append, List.length_singleton] at hlt
      omega
    rw [at?_push_length] at h
    exact ⟨rfl, Option.bind_eq_some_iff.mp h⟩

namespace Persists

variable {a b c : Block}

lemma refl (block : Block) : block.Persists block := fun _ inner h => ⟨inner, h, rfl, fun _ he => he⟩

lemma trans (hab : a.Persists b) (hbc : b.Persists c) : a.Persists c := by
  intro path inner hinner
  obtain ⟨middle, hmiddle, howner, hproblem⟩ := hab path inner hinner
  obtain ⟨next, hnext, howner', hproblem'⟩ := hbc path middle hmiddle
  exact ⟨next, hnext, howner'.trans howner, fun error h => hproblem' error (hproblem error h)⟩

lemma of_extends (hchildren : a.children <+: b.children) (howner : b.owner = a.owner)
    (hproblem : ∀ error, a.problem = some error → b.problem = some error) : a.Persists b := by
  intro path inner hinner
  cases path with
  | nil =>
    obtain rfl := Option.some.inj hinner
    exact ⟨b, rfl, howner, hproblem⟩
  | cons i path => exact ⟨inner, at?_of_extends hchildren hinner, rfl, fun _ herror => herror⟩

/-- The last declaration of a block may itself go on. -/
lemma push (block : Block) (origin : Origin) (settings settings' : Settings) (h : a.Persists b) :
    (block.push (.block origin settings a)).Persists (block.push (.block origin settings' b)) := by
  intro path inner hinner
  cases path with
  | nil =>
    obtain rfl := Option.some.inj hinner
    exact ⟨_, rfl, rfl, fun _ herror => herror⟩
  | cons i path =>
    rcases at?_push hinner with hold | ⟨rfl, body, hbody, hnew⟩
    · exact ⟨inner, at?_of_extends (List.prefix_append _ _) hold, rfl, fun _ herror => herror⟩
    · obtain rfl := Option.some.inj hbody
      rw [at?_push_length]
      exact h path inner hnew

end Persists

end Block

namespace Program

/-! ## Drafts -/

namespace Draft

lemma owner_of_resource {draft : Draft} {origin : Origin} {settings : Settings}
    (h : draft.resource = some (origin, settings)) : draft.owner = some origin := by
  rw [owner, h]
  rfl

lemma set_owner (draft : Draft) (setting : Attribute String) :
    (draft.set setting).owner = draft.owner := by
  simp [owner, Draft.set, Function.comp_def]

/-- A draft whose resource has the kind of its settings, and in which every block is in order. -/
structure Sound (draft : Draft) : Prop where
  kind : ∀ origin settings, draft.resource = some (origin, settings) →
    origin.kind = .block settings.kind
  ordered : ∀ path block, draft.toBlock.at? path = some block → block.Ordered

/-- A draft that goes on as another one, which still belongs to the same resource. -/
structure GoesOn (draft next : Draft) : Prop where
  sound : draft.Sound → next.Sound
  owner : next.owner = draft.owner
  grown : draft.Grown next

namespace Sound

variable {draft : Draft}

lemma own (h : draft.Sound) : draft.toBlock.Ordered := h.ordered [] _ rfl

lemma of_eq (h : draft.Sound) {next : Draft}
    (hkind : ∀ origin settings, next.resource = some (origin, settings) →
      origin.kind = .block settings.kind)
    (howner : next.owner = draft.owner) (hchildren : next.children = draft.children) :
    next.Sound where
  kind := hkind
  ordered := by
    intro path block hblock
    cases path with
    | nil =>
      obtain rfl := Option.some.inj hblock
      obtain ⟨positions, kinds, owners, commands⟩ := h.own
      refine ⟨?_, ?_, ?_, ?_⟩
      · simpa [toBlock, Block.resources, hchildren] using positions
      · simpa [toBlock, hchildren] using kinds
      · simpa [toBlock, hchildren] using owners
      · simpa [toBlock, hchildren, howner] using commands
    | cons i path =>
      apply h.ordered (i :: path) block
      rw [Block.at?] at hblock ⊢
      rw [← hblock]
      simp [toBlock, hchildren]

lemma recipe (node : NodeData) : (Draft.recipe node).Sound where
  kind := fun _ _ h => nomatch h
  ordered := by
    intro path block hblock
    cases path with
    | nil =>
      obtain rfl := Option.some.inj hblock
      constructor <;> simp [toBlock, Draft.recipe, Block.resources]
    | cons i path => simp [Block.at?, toBlock, Draft.recipe] at hblock

lemma openBlock (draft : Draft) (kind : BlockKind) (label : String) :
    (draft.openBlock kind label).Sound where
  kind := by
    intro origin settings h
    obtain ⟨rfl, rfl⟩ := Prod.mk.inj (Option.some.inj h)
    simp [nextOrigin]
  ordered := by
    intro path block hblock
    cases path with
    | nil =>
      obtain rfl := Option.some.inj hblock
      constructor <;> simp [toBlock, Draft.openBlock, Block.resources]
    | cons i path => simp [Block.at?, toBlock, Draft.openBlock] at hblock

lemma push (h : draft.Sound) {child : Child} (hchild : draft.toBlock.Takes child)
    (hinside : ∀ body path block, child.body? = some body → body.at? path = some block →
      block.Ordered) : (draft.push child).Sound where
  kind := h.kind
  ordered := by
    intro path block hblock
    cases path with
    | nil =>
      obtain rfl := Option.some.inj hblock
      exact h.own.push hchild
    | cons i path =>
      change (draft.toBlock.push child).at? (i :: path) = some block at hblock
      rcases Block.at?_push hblock with hold | ⟨-, body, hbody, hnew⟩
      · exact h.ordered _ block hold
      · exact hinside body path block hbody hnew

end Sound

namespace GoesOn

variable (draft : Draft)

lemma echo (message : String) : draft.GoesOn (draft.echo message) where
  sound := by
    intro h
    apply h.push
    · exact ⟨by simp [Child.origin?, nextOrigin, toBlock, Block.resources], rfl, by simp, by simp⟩
    · simp [Child.body?]
  owner := rfl
  grown := .push draft _

lemma haltOnFailedCommand : draft.GoesOn draft.haltOnFailedCommand where
  sound := by
    intro h
    apply h.push
    · exact ⟨by simp [Child.origin?, nextOrigin, toBlock, Block.resources], rfl, by simp, by simp⟩
    · simp [Child.body?]
  owner := rfl
  grown := .push draft _

/-- Only a draft that belongs to an execute resource takes a command. -/
lemma command (text : String) : draft.GoesOn (draft.command text) where
  sound := by
    intro h
    unfold Draft.command
    by_cases htarget : draft.target = .block .execute
    · rw [if_pos htarget]
      apply h.push
      · refine ⟨by simp [Child.origin?], trivial, by simp, fun _ _ => ?_⟩
        unfold target at htarget
        cases hresource : draft.resource with
        | none =>
          rw [hresource] at htarget
          exact nomatch htarget
        | some resource =>
          obtain ⟨origin, settings⟩ := resource
          rw [hresource] at htarget
          refine ⟨origin, owner_of_resource hresource, ?_⟩
          rw [h.kind origin settings hresource, Target.block.inj htarget]
      · simp [Child.body?]
    · rwa [if_neg htarget]
  owner := by
    unfold Draft.command
    split <;> rfl
  grown := .command draft text

lemma set (setting : Attribute String) : draft.GoesOn (draft.set setting) where
  sound := by
    intro h
    refine h.of_eq ?_ ?_ rfl
    · intro origin settings hresource
      obtain ⟨⟨before, old⟩, hbefore, heq⟩ := Option.map_eq_some_iff.mp hresource
      obtain ⟨rfl, rfl⟩ := Prod.mk.inj heq
      rw [Settings.kind_set]
      exact h.kind before old hbefore
    · exact set_owner draft setting
  owner := set_owner draft setting
  grown := .set draft setting

lemma define (target : Target) (name : String) (body : Program) :
    draft.GoesOn (draft.define target name body) where
  sound := fun h => h.of_eq h.kind rfl rfl
  owner := rfl
  grown := ⟨List.prefix_rfl, fun _ h => h⟩

lemma defer (error : CompileError) : draft.GoesOn (draft.defer error) where
  sound := fun h => h.of_eq h.kind rfl rfl
  owner := rfl
  grown := .defer draft error

end GoesOn

/-- A block is closed where it was opened. -/
lemma Sound.closeBlock {outer inner : Draft} (houter : outer.Sound) (hinner : inner.Sound)
    {kind : BlockKind} {label : String}
    (hopened : inner.owner = some (outer.nextOrigin (.block kind) label)) :
    (outer.closeBlock inner).Sound := by
  unfold Draft.closeBlock
  cases hresource : inner.resource with
  | none => exact houter
  | some resource =>
    obtain ⟨origin, settings⟩ := resource
    have horigin : origin = outer.nextOrigin (.block kind) label := by
      rw [owner_of_resource hresource] at hopened
      exact Option.some.inj hopened
    apply houter.push
    · refine ⟨?_, hinner.kind origin settings hresource, ?_, by simp⟩
      · simp [Child.origin?, horigin, nextOrigin, toBlock, Block.resources]
      · rintro _ _ _ ⟨⟩
        exact owner_of_resource hresource
    · intro body path block hbody hblock
      obtain rfl := Option.some.inj hbody
      exact hinner.ordered path block hblock

lemma closeBlock_owner (outer inner : Draft) : (outer.closeBlock inner).owner = outer.owner := by
  unfold Draft.closeBlock
  split <;> rfl

end Draft

/-! ## Moments -/

/-- What one statement does: something is added to the innermost block, or a block is opened in it, or
it is closed. -/
inductive Moment.Step : Moment → Moment → Prop where
  | goesOn {block next : Draft} {todo rest : Todo} {around : List (Draft × Todo)}
    (h : block.GoesOn next) : Step ⟨block, todo, around⟩ ⟨next, rest, around⟩
  | opens {block : Draft} {todo inside rest : Todo} {around : List (Draft × Todo)}
    (kind : BlockKind) (label : String) :
    Step ⟨block, todo, around⟩ ⟨block.openBlock kind label, inside, (block, rest) :: around⟩
  | closes {outer inner : Draft} {todo : Todo} {around : List (Draft × Todo)} :
    Step ⟨inner, [], (outer, todo) :: around⟩ ⟨outer.closeBlock inner, todo, around⟩

namespace Moment

lemma step_of_next? {moment later : Moment} (h : moment.next? = some later) : moment.Step later := by
  obtain ⟨block, _ | ⟨⟨argument, statement⟩, todo⟩, around⟩ := moment
  · cases around with
    | nil => exact nomatch h
    | cons outer around =>
      obtain rfl := Option.some.inj h
      exact .closes
  · cases statement with
    | echo message =>
      obtain rfl := Option.some.inj h
      exact .goesOn (.echo block _)
    | haltOnFailedCommand =>
      obtain rfl := Option.some.inj h
      exact .goesOn (.haltOnFailedCommand block)
    | logTo path =>
      obtain rfl := Option.some.inj h
      exact .opens .log _
    | block kind label body =>
      obtain rfl := Option.some.inj h
      exact .opens kind _
    | command text =>
      obtain rfl := Option.some.inj h
      exact .goesOn (.command block _)
    | set setting =>
      obtain rfl := Option.some.inj h
      exact .goesOn (.set block _)
    | define target name body =>
      obtain rfl := Option.some.inj h
      exact .goesOn (.define block target name body)
    | call name text =>
      rw [next?] at h
      cases hhelper : block.helper? name with
      | some body =>
        rw [hhelper] at h
        obtain rfl := Option.some.inj h
        exact .goesOn ⟨id, rfl, .refl block⟩
      | none =>
        rw [hhelper] at h
        obtain rfl := Option.some.inj h
        exact .goesOn (.defer block _)

/-- The open blocks as they are, the innermost one first. -/
def openBlocks (moment : Moment) : List Draft := moment.block :: moment.around.map Prod.fst

/-- A block closed in the blocks around it, one after the other. -/
def plug : Draft → List (Draft × Todo) → Draft
  | block, [] => block
  | block, (outer, _) :: around => plug (outer.closeBlock block) around

/-- The tree that was declared so far. Open blocks stand in it where they will be once closed. -/
def tree (moment : Moment) : Block := (plug moment.block moment.around).toBlock

/-- The outermost block is that of the recipe, and every other block was opened in the next one. -/
def OpenedIn : Draft → List (Draft × Todo) → Prop
  | block, [] => block.owner = none
  | block, (outer, _) :: around =>
    (∃ kind label, block.owner = some (outer.nextOrigin (.block kind) label)) ∧ outer.Sound ∧
      OpenedIn outer around

structure Sound (moment : Moment) : Prop where
  block : moment.block.Sound
  opened : OpenedIn moment.block moment.around

lemma OpenedIn.congr {block next : Draft} {around : List (Draft × Todo)}
    (howner : next.owner = block.owner) (h : OpenedIn block around) : OpenedIn next around := by
  cases around with
  | nil => exact howner.trans h
  | cons outer around =>
    obtain ⟨⟨kind, label, hblock⟩, hrest⟩ := h
    exact ⟨⟨kind, label, howner.trans hblock⟩, hrest⟩

lemma Sound.start (program : Program) (node : NodeData) : (start program node).Sound :=
  ⟨.recipe node, rfl⟩

lemma Step.sound {moment later : Moment} (h : moment.Step later) (hmoment : moment.Sound) :
    later.Sound := by
  obtain ⟨hblock, hopened⟩ := hmoment
  cases h with
  | goesOn h => exact ⟨h.sound hblock, hopened.congr h.owner⟩
  | opens kind label => exact ⟨.openBlock _ kind label, ⟨kind, label, rfl⟩, hblock, hopened⟩
  | closes =>
    obtain ⟨⟨kind, label, howner⟩, houter, haround⟩ := hopened
    exact ⟨houter.closeBlock hblock howner, haround.congr (Draft.closeBlock_owner _ _)⟩

lemma OpenedIn.sound_of_mem {block draft : Draft} {around : List (Draft × Todo)}
    (h : OpenedIn block around) (hdraft : draft ∈ around.map Prod.fst) : draft.Sound := by
  induction around generalizing block with
  | nil => exact nomatch hdraft
  | cons outer around ih =>
    obtain ⟨-, houter, haround⟩ := h
    rcases List.mem_cons.mp hdraft with rfl | hdraft
    · exact houter
    · exact ih haround hdraft

lemma Sound.of_mem {moment : Moment} (h : moment.Sound) {draft : Draft}
    (hdraft : draft ∈ moment.openBlocks) : draft.Sound := by
  rcases List.mem_cons.mp hdraft with rfl | hdraft
  · exact h.block
  · exact h.opened.sound_of_mem hdraft

lemma plug_sound {block : Draft} {around : List (Draft × Todo)} (h : block.Sound)
    (hopened : OpenedIn block around) : (plug block around).Sound ∧ (plug block around).owner = none := by
  induction around generalizing block with
  | nil => exact ⟨h, hopened⟩
  | cons outer around ih =>
    obtain ⟨⟨kind, label, howner⟩, houter, haround⟩ := hopened
    exact ih (houter.closeBlock h howner) (haround.congr (Draft.closeBlock_owner _ _))

/-! ## What stays -/

lemma persists_closeBlock (outer : Draft) {block next : Draft}
    (h : block.toBlock.Persists next.toBlock) (howner : next.owner = block.owner) :
    (outer.closeBlock block).toBlock.Persists (outer.closeBlock next).toBlock := by
  unfold Draft.closeBlock
  cases hnext : next.resource with
  | none =>
    have hnone : block.resource = none := by
      simpa [Draft.owner, hnext] using howner.symm
    rw [hnone]
    exact .refl _
  | some resource =>
    obtain ⟨origin, settings⟩ := resource
    rw [Draft.owner_of_resource hnext] at howner
    obtain ⟨⟨_, old⟩, hblock, rfl⟩ := Option.map_eq_some_iff.mp howner.symm
    rw [hblock]
    exact .push outer.toBlock _ old settings h

lemma plug_persists {block next : Draft} (h : block.toBlock.Persists next.toBlock)
    (howner : next.owner = block.owner) (around : List (Draft × Todo)) :
    (plug block around).toBlock.Persists (plug next around).toBlock := by
  induction around generalizing block next with
  | nil => exact h
  | cons outer around ih =>
    apply ih
    · exact persists_closeBlock outer.1 h howner
    · rw [Draft.closeBlock_owner, Draft.closeBlock_owner]

lemma Step.tree_persists {moment later : Moment} (h : moment.Step later) :
    moment.tree.Persists later.tree := by
  cases h with
  | goesOn h => exact plug_persists (.of_extends h.grown.children h.owner h.grown.problem) h.owner _
  | @opens block _ _ _ around kind label =>
    have hgrown := Draft.Grown.closeBlock block (block.openBlock kind label)
    have howner := Draft.closeBlock_owner block (block.openBlock kind label)
    have hblock : block.toBlock.Persists (block.closeBlock (block.openBlock kind label)).toBlock :=
      .of_extends hgrown.children howner hgrown.problem
    exact plug_persists hblock howner around
  | closes => exact .refl _

lemma after_induction {P : Moment → Prop} {moment later : Moment} {time : Nat}
    (h : moment.after time = some later) (hmoment : P moment)
    (hstep : ∀ a b, P a → a.Step b → P b) : P later := by
  induction time generalizing moment with
  | zero =>
    obtain rfl := Option.some.inj h
    exact hmoment
  | succ time ih =>
    obtain ⟨next, hnext, h⟩ := Option.bind_eq_some_iff.mp h
    exact ih h (hstep moment next hmoment (step_of_next? hnext))

end Moment

open Moment

/-- Going from moment to moment gives the result of the run. At every moment all blocks are in order,
the open ones as they are and in the tree in which each has its place; and each is found at this place
at every later moment, with the same problem if it has one. -/
theorem moments_ordered (program : Program) (node : NodeData) :
    (∀ final, (∃ depth, run depth program (.recipe node) = some final) ↔
      ∃ time, (start program node).EndsIn time final) ∧
    ∀ time moment, (start program node).after time = some moment →
      (∀ draft ∈ moment.openBlocks, ∀ path block, draft.toBlock.at? path = some block →
        block.Ordered) ∧
      (∀ path block, moment.tree.at? path = some block → block.Ordered) ∧
      moment.tree.owner = none ∧
      ∀ more later, moment.after more = some later → moment.tree.Persists later.tree := by
  refine ⟨exists_run_iff_endsIn program node, fun time moment h => ?_⟩
  have hsound : moment.Sound :=
    after_induction h (.start program node) fun _ _ hmoment hstep => hstep.sound hmoment
  obtain ⟨htree, hroot⟩ := plug_sound hsound.block hsound.opened
  refine ⟨fun draft hdraft => (hsound.of_mem hdraft).ordered, htree.ordered, hroot, ?_⟩
  intro more later hlater
  exact after_induction (P := fun later => moment.tree.Persists later.tree) hlater
    (.refl moment.tree) fun _ _ hpersists hstep => hpersists.trans hstep.tree_persists

/-- A block with a command and a message that calls two helpers, neither of which is defined. -/
def unknownHelpers : Program :=
  [.echo (.text "start"),
    .block .execute (.text "tools") [.command (.text "ls"), .echo (.text "listed"),
      .call "first" (.text ""), .block .directory (.text "/srv") [], .call "second" (.text "")]]

theorem moments_ordered_unknownHelpers :
    ∃ moment later block next,
      (start unknownHelpers .empty).after 5 = some moment ∧ moment.after 3 = some later ∧
      moment.tree.at? [1] = some block ∧ later.tree.at? [1] = some next ∧ block.Ordered ∧
      block.problem = some (.unknownHelper "execute \"tools\" (#1)" "first") ∧
      next.problem = block.problem := by
  have hmoment : (start unknownHelpers .empty).after 5 = some _ := rfl
  obtain ⟨-, hordered, -, hlater⟩ := (moments_ordered unknownHelpers .empty).2 5 _ hmoment
  obtain ⟨next, hnext, -, hproblem⟩ := hlater 3 _ rfl [1] _ rfl
  refine ⟨_, _, _, next, hmoment, rfl, rfl, hnext, hordered [1] _ rfl, ?_, ?_⟩
  · rfl
  · exact hproblem _ rfl

end Program

end SetupRecipe
