import Mathlib.Data.List.Forall2
import Mathlib.Tactic.Lemma
import SetupRecipe.Program.Run

/-!
# Labels stay out of scripts

Programs that differ in the labels of blocks run alike: both end or neither does, and they declare trees
that differ in the labels of resources. The scripts of such trees are the same, or both fail for the
same reason, as long as no label that differs stands in for a path. Labels are shown in messages only.
-/

namespace SetupRecipe

/-! ## Alike up to labels -/

def Origin.SamePlace (origin other : Origin) : Prop :=
  origin.kind = other.kind ∧ origin.position = other.position

inductive CompileError.Alike : CompileError → CompileError → Prop where
  | conflict {origin other : Origin} (place : origin.SamePlace other) (first second : String) :
    Alike (.conflict origin first second) (.conflict other first second)
  | missingAttribute {origin other : Origin} (place : origin.SamePlace other) (name : String) :
    Alike (.missingAttribute origin name) (.missingAttribute other name)
  | contentCollision {origin other : Origin} (place : origin.SamePlace other) :
    Alike (.contentCollision origin) (.contentCollision other)
  | invalidMode {origin other : Origin} (place : origin.SamePlace other) (mode : UInt32) :
    Alike (.invalidMode origin mode) (.invalidMode other mode)
  | unknownHelper {origin other : Origin} (place : origin.SamePlace other) (name : String) :
    Alike (.unknownHelper origin.text name) (.unknownHelper other.text name)
  | unknownInRecipe (name : String) :
    Alike (.unknownHelper "recipe" name) (.unknownHelper "recipe" name)

/-- The same result, or errors that differ at most in the labels they show. -/
inductive SameResult {α : Type} : Except CompileError α → Except CompileError α → Prop where
  | ok (a : α) : SameResult (.ok a) (.ok a)
  | error {error other : CompileError} (h : error.Alike other) : SameResult (.error error) (.error other)

/-- Declarations that differ at most in the labels of resources with a block. -/
inductive DeclaredAlike : List Child → List Child → Prop where
  | nil : DeclaredAlike [] []
  | leaf {child : Child} {children others : List Child} (bare : child.body? = none)
    (rest : DeclaredAlike children others) : DeclaredAlike (child :: children) (child :: others)
  | block {origin other : Origin} {settings : Settings} {body inner : Block}
    {children others : List Child} (place : origin.SamePlace other)
    (problem : Option.Rel CompileError.Alike body.problem inner.problem)
    (inside : DeclaredAlike body.children inner.children) (rest : DeclaredAlike children others) :
    DeclaredAlike (.block origin settings body :: children) (.block other settings inner :: others)

lemma rel_bind {α α' β β' : Type} {r : α → α' → Prop} {s : β → β' → Prop} {a : Option α}
    {a' : Option α'} {f : α → Option β} {g : α' → Option β'} (h : Option.Rel r a a')
    (hfg : ∀ x y, r x y → Option.Rel s (f x) (g y)) : Option.Rel s (a.bind f) (a'.bind g) := by
  cases h with
  | none => exact .none
  | some h => exact hfg _ _ h

lemma rel_map {α α' β β' : Type} {r : α → α' → Prop} {s : β → β' → Prop} {a : Option α}
    {a' : Option α'} {f : α → β} {g : α' → β'} (h : Option.Rel r a a')
    (hfg : ∀ x y, r x y → s (f x) (g y)) : Option.Rel s (a.map f) (a'.map g) := by
  cases h with
  | none => exact .none
  | some h => exact .some (hfg _ _ h)

namespace DeclaredAlike

variable {children others more moreOthers : List Child}

lemma append (h : DeclaredAlike children others) (hmore : DeclaredAlike more moreOthers) :
    DeclaredAlike (children ++ more) (others ++ moreOthers) := by
  induction h with
  | nil => exact hmore
  | leaf bare rest ih => exact .leaf bare ih
  | block place problem inside rest ihinside ih => exact .block place problem inside ih

lemma kinds (h : DeclaredAlike children others) :
    (children.filterMap Child.origin?).map Origin.kind =
      (others.filterMap Child.origin?).map Origin.kind := by
  induction h with
  | nil => rfl
  | @leaf child children others bare rest ih => cases hchild : child.origin? <;> simp [hchild, ih]
  | block place problem inside rest ihinside ih => simp [Child.origin?, ih, place.1]

lemma length_resources (h : DeclaredAlike children others) :
    (children.filterMap Child.origin?).length = (others.filterMap Child.origin?).length := by
  simpa using congrArg List.length h.kinds

end DeclaredAlike

namespace Program

def Statement.isPlain : Statement → Bool
  | .block _ _ _ | .define _ _ _ => false
  | _ => true

/-- Programs that differ at most in the labels of blocks, also inside of helpers. -/
inductive Relabelled : Program → Program → Prop where
  | nil : Relabelled [] []
  | plain {statement : Statement} {p q : Program} (h : statement.isPlain) (rest : Relabelled p q) :
    Relabelled (statement :: p) (statement :: q)
  | block {kind : BlockKind} {label other : Operand} {body inner p q : Program}
    (inside : Relabelled body inner) (rest : Relabelled p q) :
    Relabelled (.block kind label body :: p) (.block kind other inner :: q)
  | define {target : Target} {name : String} {body inner p q : Program}
    (inside : Relabelled body inner) (rest : Relabelled p q) :
    Relabelled (.define target name body :: p) (.define target name inner :: q)

/-! ## Helpers -/

/-- Helpers of the same names in the same order, with related bodies. -/
def Helpers.Related (r : Program → Program → Prop) (helpers others : Helpers) : Prop :=
  List.Forall₂ (fun a b => a.1 = b.1 ∧ r a.2 b.2) helpers others

namespace Helpers.Related

variable {r : Program → Program → Prop} {helpers others : Helpers}

lemma get? (h : helpers.Related r others) (target : Target) (name : String) :
    Option.Rel r (helpers.get? target name) (others.get? target name) := by
  unfold Helpers.get?
  induction h with
  | nil => exact .none
  | @cons a b helpers others hab rest ih =>
    obtain ⟨key, body⟩ := a
    obtain ⟨_, inner⟩ := b
    obtain ⟨rfl, hbody⟩ := hab
    rw [List.lookup_cons, List.lookup_cons]
    cases (target, name) == key with
    | true => exact .some hbody
    | false => exact ih

lemma insert (h : helpers.Related r others) (target : Target) (name : String) {body inner : Program}
    (hbody : r body inner) :
    (helpers.insert target name body).Related r (others.insert target name inner) := by
  induction h with
  | nil => exact .cons ⟨rfl, hbody⟩ .nil
  | @cons a b helpers others hab rest ih =>
    obtain ⟨key, old⟩ := a
    obtain ⟨_, other⟩ := b
    obtain ⟨rfl, hold⟩ := hab
    rw [Helpers.insert, Helpers.insert]
    by_cases hkey : key = (target, name)
    · rw [if_pos hkey, if_pos hkey]
      exact .cons ⟨rfl, hbody⟩ rest
    · rw [if_neg hkey, if_neg hkey]
      exact .cons ⟨rfl, hold⟩ ih

end Helpers.Related

/-- The blocks around related drafts see related helpers. -/
lemma scope_related {r : Program → Program → Prop} {draft other : Draft}
    (hhelpers : draft.helpers.Related r other.helpers)
    (houter : List.Forall₂ (Helpers.Related r) draft.outer other.outer) :
    List.Forall₂ (Helpers.Related r) draft.scope other.scope := by
  unfold Draft.scope
  cases hdraft : draft.helpers with
  | nil =>
    rw [hdraft] at hhelpers
    rw [List.forall₂_nil_left_iff.mp hhelpers]
    exact houter
  | cons helper helpers =>
    rw [hdraft] at hhelpers
    cases hother : other.helpers with
    | nil =>
      rw [hother] at hhelpers
      exact nomatch hhelpers
    | cons helper' helpers' =>
      rw [hother] at hhelpers
      exact .cons hhelpers houter

lemma helper?_related {r : Program → Program → Prop} {draft other : Draft}
    (htarget : draft.target = other.target) (hhelpers : draft.helpers.Related r other.helpers)
    (houter : List.Forall₂ (Helpers.Related r) draft.outer other.outer) (name : String) :
    Option.Rel r (draft.helper? name) (other.helper? name) := by
  have hscopes : List.Forall₂ (Helpers.Related r) (draft.helpers :: draft.outer)
      (other.helpers :: other.outer) := .cons hhelpers houter
  unfold Draft.helper?
  rw [htarget]
  generalize draft.helpers :: draft.outer = scopes at hscopes ⊢
  generalize other.helpers :: other.outer = otherScopes at hscopes ⊢
  induction hscopes with
  | nil => exact .none
  | @cons helpers others scopes otherScopes hab rest ih =>
    rw [List.findSome?_cons, List.findSome?_cons]
    match helpers.get? other.target name, others.get? other.target name,
      hab.get? other.target name with
    | none, none, .none => exact ih
    | some _, some _, .some hbody => exact .some hbody

def Helpers.Alike (helpers others : Helpers) : Prop :=
  List.Forall₂ (fun a b => a.1 = b.1 ∧ Relabelled a.2 b.2) helpers others

/-! ## Drafts -/

structure Draft.Alike (draft other : Draft) : Prop where
  node : draft.node = other.node
  resource : Option.Rel (fun a b => a.1.SamePlace b.1 ∧ a.2 = b.2) draft.resource other.resource
  helpers : draft.helpers.Alike other.helpers
  outer : List.Forall₂ Helpers.Alike draft.outer other.outer
  children : DeclaredAlike draft.children other.children
  problem : Option.Rel CompileError.Alike draft.problem other.problem

namespace Draft.Alike

variable {draft other : Draft}

lemma resource_cases (h : draft.Alike other) :
    draft.resource = none ∧ other.resource = none ∨
      ∃ origin origin' settings, draft.resource = some (origin, settings) ∧
        other.resource = some (origin', settings) ∧ origin.SamePlace origin' := by
  match draft.resource, other.resource, h.resource with
  | none, none, .none => exact .inl ⟨rfl, rfl⟩
  | some (origin, settings), some (origin', _), .some ⟨hplace, rfl⟩ =>
    exact .inr ⟨origin, origin', settings, rfl, rfl, hplace⟩

lemma target (h : draft.Alike other) : draft.target = other.target := by
  unfold Draft.target
  rcases h.resource_cases with ⟨ha, hb⟩ | ⟨origin, origin', settings, ha, hb, -⟩
  · rw [ha, hb]
  · rw [ha, hb]

lemma nextOrigin (h : draft.Alike other) (kind : ResourceKind) (label : String) :
    draft.nextOrigin kind label = other.nextOrigin kind label := by
  rw [Draft.nextOrigin, Draft.nextOrigin, h.children.length_resources]

lemma push_leaf (h : draft.Alike other) {child : Child} (bare : child.body? = none) :
    (draft.push child).Alike (other.push child) :=
  { h with children := h.children.append (.leaf bare .nil) }

lemma echo (h : draft.Alike other) (message : String) :
    (draft.echo message).Alike (other.echo message) := by
  unfold Draft.echo
  rw [h.nextOrigin]
  exact h.push_leaf rfl

lemma haltOnFailedCommand (h : draft.Alike other) :
    draft.haltOnFailedCommand.Alike other.haltOnFailedCommand := by
  unfold Draft.haltOnFailedCommand
  rw [h.nextOrigin]
  exact h.push_leaf rfl

lemma command (h : draft.Alike other) (text : String) :
    (draft.command text).Alike (other.command text) := by
  unfold Draft.command
  rw [h.target]
  by_cases htarget : other.target = .block .execute
  · rw [if_pos htarget, if_pos htarget]
    exact h.push_leaf rfl
  · rw [if_neg htarget, if_neg htarget]
    exact h

lemma set (h : draft.Alike other) (setting : Attribute String) :
    (draft.set setting).Alike (other.set setting) := by
  have hresource : Option.Rel (fun a b => a.1.SamePlace b.1 ∧ a.2 = b.2)
      (draft.set setting).resource (other.set setting).resource := by
    unfold Draft.set
    rcases h.resource_cases with ⟨ha, hb⟩ | ⟨origin, origin', settings, ha, hb, hplace⟩
    · rw [ha, hb]
      exact .none
    · rw [ha, hb]
      exact .some ⟨hplace, rfl⟩
  exact { h with resource := hresource }

lemma define (h : draft.Alike other) (target : Target) (name : String) {body inner : Program}
    (hbody : Relabelled body inner) :
    (draft.define target name body).Alike (other.define target name inner) :=
  { h with helpers := Helpers.Related.insert h.helpers target name hbody }

/-- The scope of an unknown helper shows the label of the block. -/
lemma deferUnknownHelper (h : draft.Alike other) (name : String) :
    (draft.deferUnknownHelper name).Alike (other.deferUnknownHelper name) := by
  have herror : CompileError.Alike (.unknownHelper draft.scopeText name)
      (.unknownHelper other.scopeText name) := by
    unfold Draft.scopeText Draft.owner
    rcases h.resource_cases with ⟨ha, hb⟩ | ⟨origin, origin', settings, ha, hb, hplace⟩
    · rw [ha, hb]
      exact .unknownInRecipe name
    · rw [ha, hb]
      exact .unknownHelper hplace name
  have hproblem : Option.Rel CompileError.Alike (draft.deferUnknownHelper name).problem
      (other.deferUnknownHelper name).problem := by
    change Option.Rel _ (draft.problem.or _) (other.problem.or _)
    match draft.problem, other.problem, h.problem with
    | none, none, .none => exact .some herror
    | some _, some _, .some hbefore => exact .some hbefore
  exact { h with problem := hproblem }

lemma openBlock (h : draft.Alike other) (kind : BlockKind) (label label' : String) :
    (draft.openBlock kind label).Alike (other.openBlock kind label') where
  node := h.node
  resource := .some ⟨⟨rfl, h.children.length_resources⟩, rfl⟩
  helpers := .nil
  outer := scope_related h.helpers h.outer
  children := .nil
  problem := .none

lemma closeBlock (h : draft.Alike other) {inner inner' : Draft} (hinner : inner.Alike inner') :
    (draft.closeBlock inner).Alike (other.closeBlock inner') := by
  unfold Draft.closeBlock
  rcases hinner.resource_cases with ⟨ha, hb⟩ | ⟨origin, origin', settings, ha, hb, hplace⟩
  · rw [ha, hb]
    exact h
  · rw [ha, hb]
    have hclosed : DeclaredAlike [.block origin settings inner.toBlock]
        [.block origin' settings inner'.toBlock] :=
      .block hplace hinner.problem hinner.children .nil
    exact { h with children := h.children.append hclosed }

lemma helper? (h : draft.Alike other) (name : String) :
    Option.Rel Relabelled (draft.helper? name) (other.helper? name) :=
  helper?_related h.target h.helpers h.outer name

end Draft.Alike

/-! ## Runs -/

/-- A relation between drafts that every verb keeps; related drafts see related helpers. -/
structure KeptByVerbs (programs : Program → Program → Prop) (drafts : Draft → Draft → Prop) :
    Prop where
  node : ∀ {draft other}, drafts draft other → draft.node = other.node
  echo : ∀ {draft other}, drafts draft other → ∀ message,
    drafts (draft.echo message) (other.echo message)
  haltOnFailedCommand : ∀ {draft other}, drafts draft other →
    drafts draft.haltOnFailedCommand other.haltOnFailedCommand
  command : ∀ {draft other}, drafts draft other → ∀ text,
    drafts (draft.command text) (other.command text)
  set : ∀ {draft other}, drafts draft other → ∀ setting,
    drafts (draft.set setting) (other.set setting)
  deferUnknownHelper : ∀ {draft other}, drafts draft other → ∀ name,
    drafts (draft.deferUnknownHelper name) (other.deferUnknownHelper name)
  openBlock : ∀ {draft other}, drafts draft other → ∀ kind label,
    drafts (draft.openBlock kind label) (other.openBlock kind label)
  closeBlock : ∀ {draft other inner inner'}, drafts draft other → drafts inner inner' →
    drafts (draft.closeBlock inner) (other.closeBlock inner')
  helper? : ∀ {draft other}, drafts draft other → ∀ name,
    Option.Rel programs (draft.helper? name) (other.helper? name)

lemma Statement.run_plain_related {programs : Program → Program → Prop}
    {drafts : Draft → Draft → Prop} (kept : KeptByVerbs programs drafts) {call other : Call}
    (hcall : ∀ body inner given draft draft', programs body inner → drafts draft draft' →
      Option.Rel drafts (call body given draft) (other inner given draft'))
    (argument : String) {statement : Statement} (hplain : statement.isPlain) {draft draft' : Draft}
    (h : drafts draft draft') :
    Option.Rel drafts (statement.run call argument draft) (statement.run other argument draft') := by
  have hnode := kept.node h
  cases statement with
  | block kind label body => exact nomatch hplain
  | define target name body => exact nomatch hplain
  | echo message =>
    rw [Statement.run, Statement.run, hnode]
    exact .some (kept.echo h _)
  | haltOnFailedCommand => exact .some (kept.haltOnFailedCommand h)
  | logTo path =>
    rw [Statement.run, Statement.run, hnode]
    exact .some (kept.closeBlock h (kept.set (kept.openBlock h .log _) _))
  | command text =>
    rw [Statement.run, Statement.run, hnode]
    exact .some (kept.command h _)
  | set setting =>
    rw [Statement.run, Statement.run, hnode]
    exact .some (kept.set h _)
  | call name text =>
    rw [Statement.run, Statement.run, hnode]
    have hhelper := kept.helper? h name
    generalize draft.helper? name = helper, draft'.helper? name = helper' at hhelper ⊢
    cases hhelper with
    | none => exact .some (kept.deferUnknownHelper h name)
    | some hbody => exact hcall _ _ _ _ _ hbody h

lemma alike_keptByVerbs : KeptByVerbs Relabelled Draft.Alike where
  node h := h.node
  echo h := h.echo
  haltOnFailedCommand h := h.haltOnFailedCommand
  command h := h.command
  set h := h.set
  deferUnknownHelper h := h.deferUnknownHelper
  openBlock h kind label := h.openBlock kind label label
  closeBlock h hinner := h.closeBlock hinner
  helper? h := h.helper?

def Call.Alike (call other : Call) : Prop :=
  ∀ body inner given draft draft', Relabelled body inner → draft.Alike draft' →
    Option.Rel Draft.Alike (call body given draft) (other inner given draft')

section

variable {call other : Call}

lemma runAll_alike (hcall : call.Alike other) (argument : String) {p q : Program}
    (hpq : Relabelled p q) {draft draft' : Draft} (h : draft.Alike draft') :
    Option.Rel Draft.Alike (runAll call argument p draft) (runAll other argument q draft') := by
  induction hpq generalizing draft draft' with
  | nil => exact .some h
  | plain hplain rest ih =>
    rw [runAll_cons, runAll_cons]
    have hstep := Statement.run_plain_related alike_keptByVerbs hcall argument hplain h
    exact rel_bind hstep fun _ _ hnext => ih hnext
  | @block kind label label' _ _ _ _ inside rest ihinside ih =>
    rw [runAll_cons, runAll_cons, Statement.run, Statement.run]
    have hinner := ihinside
      (h.openBlock kind (label.eval draft.node argument) (label'.eval draft'.node argument))
    have hclosed := rel_map hinner fun _ _ hinner => h.closeBlock hinner
    exact rel_bind hclosed fun _ _ hnext => ih hnext
  | define inside rest ihinside ih => exact ih (h.define _ _ inside)

end

lemma callWithin_alike (depth : Nat) : (callWithin depth).Alike (callWithin depth) := by
  induction depth with
  | zero => exact fun _ _ _ _ _ _ _ => .none
  | succ depth ih => exact fun _ _ given _ _ hbody h => runAll_alike ih given hbody h

end Program

open Shell (Fragment)

/-! ## Labels that stand for paths -/

/-- Whether the label of a resource stands for its path. -/
def Settings.needsLabel : Settings → Bool
  | .file s => s.path.isNone
  | .directory s => s.path.isNone
  | .gemfile s => s.path.isNone
  | .execute _ | .log _ => false

mutual

/-- The labels of the files, directories and gemfiles of a tree that declare no path, in order. -/
def Block.neededLabels : Block → List String
  | ⟨_, _, children, _⟩ => neededLabelsAll children

def Child.neededLabels : Child → List String
  | .command _ => []
  | .echo _ _ => []
  | .haltOnFailedCommand _ => []
  | .block origin settings body =>
    (if settings.needsLabel then [origin.label] else []) ++ body.neededLabels

def neededLabelsAll : List Child → List String
  | [] => []
  | child :: children => child.neededLabels ++ neededLabelsAll children

end

lemma Block.neededLabels_eq (block : Block) : block.neededLabels = neededLabelsAll block.children := by
  obtain ⟨owner, helpers, children, problem⟩ := block
  rfl

lemma DeclaredAlike.length_neededLabels {children others : List Child}
    (h : DeclaredAlike children others) :
    (neededLabelsAll children).length = (neededLabelsAll others).length := by
  induction h with
  | nil => rfl
  | leaf bare rest ih => simp [neededLabelsAll, ih]
  | @block origin other settings body inner children others place problem inside rest ihinside ih =>
    simp only [neededLabelsAll, Child.neededLabels, Block.neededLabels_eq, List.length_append, ih,
      ihinside]
    cases settings.needsLabel <;> rfl

/-! ## Rendering -/

namespace SameResult

variable {α β : Type}

lemma bind {x y : Except CompileError α} {f g : α → Except CompileError β} (hxy : SameResult x y)
    (hfg : ∀ a, SameResult (f a) (g a)) : SameResult (x >>= f) (y >>= g) := by
  cases hxy with
  | ok a => exact hfg a
  | error h => exact .error h

lemma map {x y : Except CompileError α} (f : α → β) (hxy : SameResult x y) :
    SameResult (x.map f) (y.map f) := by
  cases hxy with
  | ok a => exact .ok (f a)
  | error h => exact .error h

end SameResult

section Resources

variable {origin other : Origin} (place : origin.SamePlace other)
include place

lemma requiredPath_same {path : Option String} (hlabel : path.isNone → origin.label = other.label) :
    SameResult (requiredPath origin path) (requiredPath other path) := by
  cases path with
  | some path => exact .ok path
  | none =>
    unfold requiredPath
    rw [hlabel rfl]
    by_cases hempty : other.label = ""
    · rw [if_pos hempty, if_pos hempty]
      exact .error (.missingAttribute place "path")
    · rw [if_neg hempty, if_neg hempty]
      exact .ok other.label

lemma writeFile_same (path content : String) :
    SameResult (writeFile origin path content) (writeFile other path content) := by
  unfold writeFile
  cases Shell.Heredoc.ofContent? content with
  | none => exact .error (.contentCollision place)
  | some doc => exact .ok _

lemma changeMode_same (path : String) (mode : Option UInt32) :
    SameResult (changeMode origin path mode) (changeMode other path mode) := by
  cases mode with
  | none => exact .ok _
  | some mode =>
    simp only [changeMode]
    cases Shell.octalMode? mode with
    | none => exact .error (.invalidMode place mode)
    | some digits => exact .ok _

lemma FileSettings.declaredContent_same (s : FileSettings) (declares : Bool) :
    SameResult (s.declaredContent origin declares) (s.declaredContent other declares) := by
  unfold declaredContent
  cases s.content <;> cases s.contentLines <;> cases declares
  all_goals first | exact .ok _ | exact .error (.conflict place _ _)

lemma FileSettings.create_same (path : String) (content : Option String) :
    SameResult (create origin path content) (create other path content) := by
  cases content with
  | none => exact .ok _
  | some content => exact writeFile_same place path content

lemma LogSettings.redirection_same (s : LogSettings) :
    SameResult (s.redirection origin) (s.redirection other) := by
  unfold redirection
  cases s.path <;> cases s.stdout <;> cases s.stderr
  all_goals first
    | exact .ok _
    | exact .error (.conflict place _ _)
    | exact .error (.missingAttribute place _)

variable {body inner : Except CompileError Fragment} (hbody : SameResult body inner)
  (declares : Bool)
include hbody

omit place in
lemma ExecuteSettings.render_same (s : ExecuteSettings) :
    SameResult (s.render body) (s.render inner) := by
  apply hbody.bind
  intro before
  cases s.guard? <;> exact .ok _

lemma FileSettings.render_same (s : FileSettings)
    (hlabel : s.path.isNone → origin.label = other.label) :
    SameResult (s.render origin declares body) (s.render other declares inner) := by
  apply (requiredPath_same place hlabel).bind
  intro path
  apply (s.declaredContent_same place declares).bind
  intro content
  apply hbody.bind
  intro before
  apply (create_same place path content).bind
  intro write
  apply (changeMode_same place path s.mode).bind
  intro mode
  exact .ok _

lemma DirectorySettings.render_same (s : DirectorySettings)
    (hlabel : s.path.isNone → origin.label = other.label) :
    SameResult (s.render origin body) (s.render other inner) := by
  apply (requiredPath_same place hlabel).bind
  intro path
  apply hbody.bind
  intro before
  apply (changeMode_same place path s.mode).bind
  intro mode
  exact .ok _

lemma LogSettings.render_same (s : LogSettings) :
    SameResult (s.render origin body) (s.render other inner) := by
  apply (s.redirection_same place).bind
  intro redirection
  apply hbody.bind
  intro before
  exact .ok _

lemma GemfileSettings.render_same (s : GemfileSettings)
    (hlabel : s.path.isNone → origin.label = other.label) :
    SameResult (s.render origin declares body) (s.render other declares inner) := by
  apply (requiredPath_same place hlabel).bind
  intro directory
  have hwrite : SameResult
      (do
        let before ← body
        let write ← writeFile origin (manifestPath directory) (Manifest.text s.source s.gems)
        return Fragment.guarded (existsTest (manifestPath directory)) (before ++ write))
      (do
        let before ← inner
        let write ← writeFile other (manifestPath directory) (Manifest.text s.source s.gems)
        return Fragment.guarded (existsTest (manifestPath directory)) (before ++ write)) := by
    apply hbody.bind
    intro before
    apply (writeFile_same place _ _).bind
    intro write
    exact .ok _
  cases !s.gems.isEmpty && declares with
  | true => exact .error (.conflict place "gem" nestedDeclarations)
  | false => exact hwrite

/-- A resource shows its label in errors, and where the label stands for its path. -/
lemma Settings.render_same (settings : Settings)
    (hlabel : settings.needsLabel → origin.label = other.label) :
    SameResult (settings.render origin declares body) (settings.render other declares inner) := by
  cases settings with
  | execute s => exact s.render_same hbody
  | file s => exact s.render_same place hbody declares hlabel
  | directory s => exact s.render_same place hbody hlabel
  | log s => exact s.render_same place hbody
  | gemfile s => exact s.render_same place hbody declares hlabel

end Resources

lemma Block.fragments_same {block other : Block}
    (hproblem : Option.Rel CompileError.Alike block.problem other.problem)
    (hchildren : SameResult (childFragments block.children) (childFragments other.children)) :
    SameResult block.fragments other.fragments := by
  obtain ⟨owner, helpers, children, problem⟩ := block
  obtain ⟨owner', helpers', others, problem'⟩ := other
  cases hproblem with
  | none => exact hchildren
  | some herror => exact .error herror

lemma childFragments_same_cons {child other : Child} {children others : List Child}
    (hchild : SameResult child.render other.render)
    (hrest : SameResult (childFragments children) (childFragments others)) :
    SameResult (childFragments (child :: children)) (childFragments (other :: others)) := by
  apply hchild.bind
  intro fragment
  apply hrest.bind
  intro more
  exact .ok _

lemma DeclaredAlike.childFragments_same {children others : List Child}
    (h : DeclaredAlike children others) (hlabels : neededLabelsAll children = neededLabelsAll others) :
    SameResult (childFragments children) (childFragments others) := by
  induction h with
  | nil => exact .ok []
  | @leaf child children others bare rest ih =>
    have hchild : SameResult child.render child.render := by
      cases child with
      | block origin settings body => exact nomatch bare
      | _ => exact .ok _
    exact childFragments_same_cons hchild (ih (List.append_cancel_left hlabels))
  | @block origin other settings body inner children others place problem inside rest ihinside ih =>
    simp only [neededLabelsAll, Child.neededLabels, Block.neededLabels_eq] at hlabels
    -- the trees have the same shape, so that the lists of labels are cut at the same places
    have hlength := inside.length_neededLabels
    obtain ⟨hchild, hrest⟩ := List.append_inj hlabels (by
      cases settings.needsLabel <;> simp [hlength])
    obtain ⟨hown, hinside⟩ := List.append_inj hchild (by cases settings.needsLabel <;> rfl)
    have hlabel : settings.needsLabel → origin.label = other.label := by
      intro hneeds
      simpa [hneeds] using hown
    have hdeclares : body.hasDeclarations = inner.hasDeclarations := by
      have hany := congrArg (List.any · (· != .echo)) inside.kinds
      rw [List.any_map, List.any_map] at hany
      exact hany
    have hbody : SameResult body.renderBody inner.renderBody :=
      (Block.fragments_same problem (ihinside hinside)).map Fragment.concat
    apply childFragments_same_cons _ (ih hrest)
    rw [Child.render, Child.render, hdeclares]
    exact settings.render_same place hbody _ hlabel

/-- Programs that differ in labels of blocks only, where a file, directory or gemfile with another label
declares its path, have the same script or fail for the same reason, unless neither of them ends. -/
theorem Program.script_relabelled {p q : Program} (h : Relabelled p q) (depth : Nat)
    (node : NodeData) :
    Option.Rel (fun tree other => tree.neededLabels = other.neededLabels →
      SameResult tree.script other.script) (p.evaluate depth node) (q.evaluate depth node) := by
  have hstart : (Draft.recipe node).Alike (.recipe node) := ⟨rfl, .none, .nil, .nil, .nil, .none⟩
  have hrun := runAll_alike (callWithin_alike depth) "" h hstart
  apply rel_map hrun
  intro draft other hdraft hlabels
  have hchildren := hdraft.children.childFragments_same hlabels
  have hfragments : SameResult draft.toBlock.fragments other.toBlock.fragments :=
    Block.fragments_same hdraft.problem hchildren
  exact hfragments.map Block.joinScript

/-- A file that gets its path from a helper, in a block that calls an unknown helper; both blocks are
labelled as asked for. -/
def Program.labelled (block file : String) : Program :=
  [.define (.block .file) "at" [.set (.path .argument)],
    .block .execute (.text block) [.command (.text "ls"),
      .block .file (.text file) [.call "at" (.text "/etc/motd"), .set (.content (.text "hi"))],
      .call "report" (.text "")]]

theorem Program.script_relabelled_labelled :
    Relabelled (labelled "tools" "motd") (labelled "" "other") ∧
      ∃ tree other, (labelled "tools" "motd").evaluate 1 .empty = some tree ∧
        (labelled "" "other").evaluate 1 .empty = some other ∧
        tree.neededLabels = other.neededLabels ∧ SameResult tree.script other.script ∧
        tree.script = .error (.unknownHelper "execute \"tools\" (#0)" "report") ∧
        other.script = .error (.unknownHelper "execute (#0)" "report") := by
  have hsame : Relabelled (labelled "tools" "motd") (labelled "" "other") := by
    apply Relabelled.define (.plain rfl .nil)
    apply Relabelled.block _ .nil
    apply Relabelled.plain rfl
    apply Relabelled.block (.plain rfl (.plain rfl .nil))
    exact .plain rfl .nil
  have hrel := script_relabelled hsame 1 .empty
  refine ⟨hsame, _, _, rfl, rfl, rfl, ?_, rfl, rfl⟩
  cases hrel with
  | some hscript => exact hscript rfl

end SetupRecipe
