import SetupRecipe.Proofs.Growth

/-!
# Values that last

Of an attribute given twice the last value counts, and gems add up. The settings of a block do not
depend on what is declared between them, nor the declarations on the settings: bodies with the same
declarations and with the same values that last run alike, wherever the attributes stand in them.
-/

namespace SetupRecipe

/-! ## One attribute at a time -/

/-- The attributes without their values. -/
inductive AttributeName where
  | cwd
  | notIf
  | creates
  | path
  | content
  | contentLines
  | mode
  | stdout
  | stderr
  | source
  | gem
deriving DecidableEq, Repr

namespace Attribute

def name : Attribute τ → AttributeName
  | cwd _ => .cwd
  | notIf _ => .notIf
  | creates _ => .creates
  | path _ => .path
  | content _ => .content
  | contentLines _ => .contentLines
  | mode _ => .mode
  | stdout _ => .stdout
  | stderr _ => .stderr
  | source _ => .source
  | gem _ _ => .gem

lemma name_map (f : σ → τ) (a : Attribute σ) : (a.map f).name = a.name := by
  cases a
  all_goals rfl

end Attribute

namespace Settings

/-- The settings with only some attributes, as if the others were never set. -/
def only (keep : AttributeName → Bool) : Settings → Settings
  | execute s => execute
    { cwd := if keep .cwd then s.cwd else none
      notIf := if keep .notIf then s.notIf else none
      creates := if keep .creates then s.creates else none }
  | file s => file
    { path := if keep .path then s.path else none
      content := if keep .content then s.content else none
      contentLines := if keep .contentLines then s.contentLines else none
      mode := if keep .mode then s.mode else none }
  | directory s => directory
    { path := if keep .path then s.path else none
      mode := if keep .mode then s.mode else none }
  | log s => log
    { path := if keep .path then s.path else none
      stdout := if keep .stdout then s.stdout else none
      stderr := if keep .stderr then s.stderr else none }
  | gemfile s => gemfile
    { path := if keep .path then s.path else none
      gems := if keep .gem then s.gems else []
      source := if keep .source then s.source else none }

variable {keep : AttributeName → Bool}

lemma kind_only (keep : AttributeName → Bool) (s : Settings) : (s.only keep).kind = s.kind := by
  cases s
  all_goals rfl

lemma only_only (keep : AttributeName → Bool) (s : Settings) :
    (s.only keep).only keep = s.only keep := by
  cases s
  all_goals simp only [only]
  all_goals grind

lemma only_set_of_dropped {a : Attribute String} (h : keep a.name = false) (s : Settings) :
    (s.set a).only keep = s.only keep := by
  cases s
  all_goals cases a
  all_goals simp_all [set, only, Attribute.name]

lemma only_set_of_kept {a : Attribute String} (h : keep a.name = true) (s : Settings) :
    (s.set a).only keep = (s.only keep).set a := by
  cases s
  all_goals cases a
  all_goals simp_all [set, only, Attribute.name]

/-- An attribute of which the last value counts makes up for whatever was set before. -/
lemma only_set_eq {s t : Settings} (hkind : s.kind = t.kind) {a : Attribute String}
    (single : a.name ≠ .gem) :
    (s.set a).only (decide <| · = a.name) = (t.set a).only (decide <| · = a.name) := by
  cases s
  all_goals cases t
  all_goals cases hkind
  all_goals cases a
  all_goals simp_all [set, only, Attribute.name]

lemma eq_of_only {s t : Settings}
    (h : ∀ name, s.only (decide <| · = name) = t.only (decide <| · = name)) : s = t := by
  have hkind : s.kind = t.kind := by
    rw [← kind_only (decide <| · = .path) s, h .path, kind_only]
  cases s with
  | execute s =>
    cases t with
    | execute t =>
      have hcwd := h .cwd
      have hnotIf := h .notIf
      have hcreates := h .creates
      cases s; cases t; simp_all [only]
    | _ => cases hkind
  | file s =>
    cases t with
    | file t =>
      have hpath := h .path
      have hcontent := h .content
      have hcontentLines := h .contentLines
      have hmode := h .mode
      cases s; cases t; simp_all [only]
    | _ => cases hkind
  | directory s =>
    cases t with
    | directory t =>
      have hpath := h .path
      have hmode := h .mode
      cases s; cases t; simp_all [only]
    | _ => cases hkind
  | log s =>
    cases t with
    | log t =>
      have hpath := h .path
      have hstdout := h .stdout
      have hstderr := h .stderr
      cases s; cases t; simp_all [only]
    | _ => cases hkind
  | gemfile s =>
    cases t with
    | gemfile t =>
      have hpath := h .path
      have hsource := h .source
      have hgem := h .gem
      cases s; cases t; simp_all [only]
    | _ => cases hkind

end Settings

namespace Program

/-! ## Drafts -/

namespace Draft

variable {keep : AttributeName → Bool} {draft other : Draft}

/-- The draft with only some attributes of its resource. -/
def only (keep : AttributeName → Bool) (draft : Draft) : Draft :=
  { draft with resource := draft.resource.map fun (origin, settings) => (origin, settings.only keep) }

lemma target_only (keep : AttributeName → Bool) (draft : Draft) :
    (draft.only keep).target = draft.target := by
  unfold target only
  cases draft.resource with
  | none => rfl
  | some resource => simp [Settings.kind_only]

lemma target_set (draft : Draft) (a : Attribute String) : (draft.set a).target = draft.target := by
  unfold target set
  cases draft.resource with
  | none => rfl
  | some resource => simp

lemma only_only (keep : AttributeName → Bool) (draft : Draft) :
    (draft.only keep).only keep = draft.only keep := by
  unfold only
  cases draft.resource with
  | none => rfl
  | some resource => simp [Settings.only_only]

lemma only_set_of_dropped {a : Attribute String} (h : keep a.name = false) (draft : Draft) :
    (draft.set a).only keep = draft.only keep := by
  unfold only set
  cases draft.resource with
  | none => rfl
  | some resource => simp [Settings.only_set_of_dropped h]

lemma only_set_of_kept {a : Attribute String} (h : keep a.name = true) (draft : Draft) :
    (draft.set a).only keep = (draft.only keep).set a := by
  unfold only set
  cases draft.resource with
  | none => rfl
  | some resource => simp [Settings.only_set_of_kept h]

lemma only_command (keep : AttributeName → Bool) (draft : Draft) (text : String) :
    (draft.command text).only keep = (draft.only keep).command text := by
  unfold command
  rw [target_only]
  by_cases h : draft.target = .block .execute
  · rw [if_pos h, if_pos h]
    rfl
  · rw [if_neg h, if_neg h]

lemma helper?_only (keep : AttributeName → Bool) (draft : Draft) (name : String) :
    (draft.only keep).helper? name = draft.helper? name := by
  unfold helper?
  rw [target_only]
  rfl

lemma only_closeBlock (keep : AttributeName → Bool) (draft inner : Draft) :
    (draft.closeBlock inner).only keep = (draft.only keep).closeBlock inner := by
  unfold closeBlock
  cases inner.resource with
  | none => rfl
  | some resource => rfl

lemma only_deferUnknownHelper (keep : AttributeName → Bool) (draft : Draft) (name : String) :
    (draft.deferUnknownHelper name).only keep = (draft.only keep).deferUnknownHelper name := by
  have hscope : (draft.only keep).scopeText = draft.scopeText := by
    unfold scopeText owner only
    cases draft.resource with
    | none => rfl
    | some resource => rfl
  unfold deferUnknownHelper
  rw [hscope]
  rfl

/-- Drafts that differ in attributes only do not differ in one that is set now. -/
lemma only_set_eq (h : draft.only (fun _ => false) = other.only (fun _ => false))
    {a : Attribute String} (single : a.name ≠ .gem) :
    (draft.set a).only (decide <| · = a.name) = (other.set a).only (decide <| · = a.name) := by
  obtain ⟨node, resource, helpers, outer, children, problem⟩ := draft
  obtain ⟨node', resource', helpers', outer', children', problem'⟩ := other
  simp only [only, Draft.mk.injEq] at h
  obtain ⟨rfl, hresource, rfl, rfl, rfl, rfl⟩ := h
  cases resource with
  | none =>
    cases resource' with
    | none => rfl
    | some b => exact nomatch hresource
  | some a' =>
    cases resource' with
    | none => exact nomatch hresource
    | some b =>
      simp only [Option.map_some, Option.some.injEq, Prod.mk.injEq] at hresource
      have hkind : a'.2.kind = b.2.kind := by
        rw [← Settings.kind_only (fun _ => false) a'.2, hresource.2, Settings.kind_only]
      simp only [only, set, Option.map_some, hresource.1, Settings.only_set_eq hkind single]

lemma eq_of_only (h : ∀ name, draft.only (decide <| · = name) = other.only (decide <| · = name)) :
    draft = other := by
  obtain ⟨node, resource, helpers, outer, children, problem⟩ := draft
  obtain ⟨node', resource', helpers', outer', children', problem'⟩ := other
  simp only [only, Draft.mk.injEq] at h
  obtain ⟨rfl, -, rfl, rfl, rfl, rfl⟩ := h .path
  have hresource : resource = resource' := by
    cases resource with
    | none =>
      cases resource' with
      | none => rfl
      | some b => exact nomatch (h .path).2.1
    | some a =>
      cases resource' with
      | none => exact nomatch (h .path).2.1
      | some b =>
        simp only [Option.map_some, Option.some.injEq, Prod.mk.injEq] at h
        have hsettings : a.2 = b.2 := Settings.eq_of_only fun name => (h name).2.1.2
        exact congrArg some (Prod.ext (h .path).2.1.1 hsettings)
  rw [hresource]

end Draft

/-! ## Runs of which one attribute is seen -/

/-- Calls that do to one attribute what they do without the others. -/
def Call.Separates (keep : AttributeName → Bool) (call : Call) : Prop :=
  ∀ body given draft, (call body given draft).map (Draft.only keep) =
    (call body given (draft.only keep)).map (Draft.only keep)

section

variable {keep : AttributeName → Bool} {call : Call}

lemma Statement.run_only (hcall : call.Separates keep) (argument : String) (statement : Statement)
    (draft : Draft) :
    (statement.run call argument draft).map (Draft.only keep) =
      (statement.run call argument (draft.only keep)).map (Draft.only keep) := by
  have hsome : ∀ {a b : Draft}, a.only keep = b →
      (some a).map (Draft.only keep) = (some b).map (Draft.only keep) := by
    intro a b hab
    rw [Option.map_some, Option.map_some, ← hab, Draft.only_only]
  cases statement with
  | echo message => exact hsome rfl
  | haltOnFailedCommand => exact hsome rfl
  | logTo path => exact hsome (Draft.only_closeBlock keep draft _)
  | block kind label body =>
    -- What a nested block starts from does not depend on the settings around it.
    change (Option.map draft.closeBlock (runAll call argument body
        (draft.openBlock kind (label.eval draft.node argument)))).map _ =
      (Option.map (draft.only keep).closeBlock (runAll call argument body
        (draft.openBlock kind (label.eval draft.node argument)))).map _
    cases runAll call argument body (draft.openBlock kind (label.eval draft.node argument)) with
    | none => rfl
    | some inner => exact hsome (Draft.only_closeBlock keep draft inner)
  | command text => exact hsome (Draft.only_command keep draft _)
  | set setting =>
    have hset : ∀ a : Attribute String,
        (some (draft.set a)).map (Draft.only keep) =
          (some ((draft.only keep).set a)).map (Draft.only keep) := by
      intro a
      cases hkeep : keep a.name with
      | true => exact hsome (Draft.only_set_of_kept hkeep draft)
      | false =>
        rw [Option.map_some, Option.map_some, Draft.only_set_of_dropped hkeep,
          Draft.only_set_of_dropped hkeep, Draft.only_only]
    exact hset _
  | define target name body => exact hsome rfl
  | call name text =>
    simp only [Statement.run, Draft.helper?_only]
    cases draft.helper? name with
    | none => exact hsome (Draft.only_deferUnknownHelper keep draft name)
    | some body => exact hcall body _ draft

lemma Statement.run_congr (hcall : call.Separates keep) (argument : String) (statement : Statement)
    {draft other : Draft} (h : draft.only keep = other.only keep) :
    (statement.run call argument draft).map (Draft.only keep) =
      (statement.run call argument other).map (Draft.only keep) := by
  rw [statement.run_only hcall, h, ← statement.run_only hcall]

/-- What is seen of a run is what is seen of its rest, after a first step that looks the same. -/
lemma runAll_cons_alike {argument : String} {statement : Statement} {statements : List Statement}
    {draft other : Draft} {seen : Draft → Draft}
    (hstep : (statement.run call argument draft).map (Draft.only keep) =
      (statement.run call argument other).map (Draft.only keep))
    (hrest : ∀ {next next' : Draft}, next.only keep = next'.only keep →
      (runAll call argument statements next).map seen =
        (runAll call argument statements next').map seen) :
    (runAll call argument (statement :: statements) draft).map seen =
      (runAll call argument (statement :: statements) other).map seen := by
  rw [runAll_cons, runAll_cons]
  cases hdraft : statement.run call argument draft with
  | none =>
    rw [hdraft] at hstep
    rw [Option.map_eq_none_iff.mp hstep.symm]
  | some next =>
    rw [hdraft] at hstep
    obtain ⟨next', hother, hnext⟩ := Option.map_eq_some_iff.mp hstep.symm
    rw [hother]
    exact hrest hnext.symm

lemma runAll_congr (hcall : call.Separates keep) (argument : String) (statements : List Statement)
    {draft other : Draft} (h : draft.only keep = other.only keep) :
    (runAll call argument statements draft).map (Draft.only keep) =
      (runAll call argument statements other).map (Draft.only keep) := by
  induction statements generalizing draft other with
  | nil => exact congrArg some h
  | cons statement statements ih =>
    exact runAll_cons_alike (statement.run_congr hcall argument h) fun hnext => ih hnext

lemma callWithin_separates (keep : AttributeName → Bool) (depth : Nat) :
    (callWithin depth).Separates keep := by
  induction depth with
  | zero => exact fun _ _ _ => rfl
  | succ depth ih =>
    intro body given draft
    exact runAll_congr ih given body (draft.only_only keep).symm

end

/-! ## Bodies -/

def Statement.isSetting : Statement → Bool
  | .set _ => true
  | _ => false

def Statement.isCall : Statement → Bool
  | .call _ _ => true
  | _ => false

/-- Whether a statement is a setting of an attribute. -/
def Statement.sets (name : AttributeName) : Statement → Bool
  | .set a => a.name = name
  | _ => false

/-- The statements of a body that are no attributes. -/
def declarations (body : List Statement) : List Statement := body.filter (!·.isSetting)

/-- The settings of an attribute that no later one replaces. A helper may set any attribute, so that
its calls count among them. -/
def deciding (name : AttributeName) : List Statement → List Statement
  | [] => []
  | statement :: rest =>
    if statement.isCall then statement :: deciding name rest
    else if statement.sets name && (name = .gem || !rest.any (·.sets name)) then
      statement :: deciding name rest
    else deciding name rest

/-- Bodies that differ at most in where attributes stand and in values that do not last. -/
structure SameValues (body other : List Statement) : Prop where
  declarations : declarations body = declarations other
  deciding : ∀ name, deciding name body = deciding name other

/-- Declarations with the settings of one attribute among them, each as late as possible. -/
def weave : List Statement → List Statement → List Statement
  | [], settings => settings
  | statement :: rest, settings =>
    if statement.isCall then
      settings.takeWhile (!·.isCall) ++
        statement :: weave rest (settings.dropWhile (!·.isCall)).tail
    else statement :: weave rest settings

section

variable {call : Call} {name : AttributeName}

/-- What is declared does not depend on the attributes, nor changes them. -/
lemma Statement.run_set (call : Call) (argument : String) {statement : Statement}
    (hset : statement.isSetting = false) (hcall : statement.isCall = false) (draft : Draft)
    (a : Attribute String) :
    statement.run call argument (draft.set a) =
        (statement.run call argument draft).map (Draft.set · a) ∧
      ∀ next, statement.run call argument draft = some next → next.node = draft.node := by
  have hclose : ∀ inner : Draft, (draft.set a).closeBlock inner = (draft.closeBlock inner).set a ∧
      (draft.closeBlock inner).node = draft.node := by
    intro inner
    unfold Draft.closeBlock
    cases inner.resource with
    | none => exact ⟨rfl, rfl⟩
    | some resource => exact ⟨rfl, rfl⟩
  cases statement with
  | echo message => exact ⟨rfl, fun next h => Option.some.inj h ▸ rfl⟩
  | haltOnFailedCommand => exact ⟨rfl, fun next h => Option.some.inj h ▸ rfl⟩
  | logTo path => exact ⟨rfl, fun next h => Option.some.inj h ▸ rfl⟩
  | block kind label body =>
    constructor
    · change Option.map _ (runAll call argument body
        (draft.openBlock kind (label.eval draft.node argument))) = _
      rw [Statement.run, Option.map_map]
      exact congrArg (Option.map · _) (funext fun inner => (hclose inner).1)
    · intro next h
      obtain ⟨inner, -, rfl⟩ := Option.map_eq_some_iff.mp h
      exact (hclose inner).2
  | command text =>
    simp only [Statement.run, Draft.command, Draft.target_set]
    by_cases h : draft.target = .block .execute
    · simp only [if_pos h]
      exact ⟨rfl, fun next h => Option.some.inj h ▸ rfl⟩
    · simp only [if_neg h]
      exact ⟨rfl, fun next h => Option.some.inj h ▸ rfl⟩
  | set setting => cases hset
  | define target name body => exact ⟨rfl, fun next h => Option.some.inj h ▸ rfl⟩
  | call name text => cases hcall

lemma runAll_set_comm (call : Call) (argument : String) (a : Attribute Operand) {statement : Statement}
    (hset : statement.isSetting = false) (hcall : statement.isCall = false) (rest : List Statement)
    (draft : Draft) :
    runAll call argument (.set a :: statement :: rest) draft =
      runAll call argument (statement :: .set a :: rest) draft := by
  obtain ⟨hrun, hnode⟩ := Statement.run_set call argument hset hcall draft
    (a.map fun text => text.eval draft.node argument)
  simp only [runAll, Statement.run, hrun]
  cases hnext : statement.run call argument draft with
  | none => rfl
  | some next => simp only [Option.map_some, hnode next hnext]

lemma runAll_weave_set (call : Call) (argument : String) (a : Attribute Operand)
    {statements : List Statement} (h : ∀ s ∈ statements, s.isSetting = false)
    (settings : List Statement) (draft : Draft) :
    runAll call argument (weave statements (.set a :: settings)) draft =
      runAll call argument (.set a :: weave statements settings) draft := by
  induction statements generalizing draft with
  | nil => rfl
  | cons statement statements ih =>
    rw [List.forall_mem_cons] at h
    cases hcall : statement.isCall with
    | true =>
      have hset : (Statement.set a).isCall = false := rfl
      simp [weave, hcall, hset]
    | false =>
      have hstep : weave (statement :: statements) settings = statement :: weave statements settings := by
        simp [weave, hcall]
      rw [hstep, runAll_set_comm call argument a h.1 hcall, weave, if_neg (by simp [hcall])]
      rw [runAll_cons, runAll_cons]
      exact Option.bind_congr fun next _ => ih h.2 next

/-- What an attribute had before does not matter to a body that sets it. -/
lemma runAll_of_sets (hcall : ∀ keep, call.Separates keep) (argument : String) (single : name ≠ .gem)
    {body : List Statement} (hsets : body.any (·.sets name)) {draft other : Draft}
    (h : draft.only (fun _ => false) = other.only (fun _ => false)) :
    (runAll call argument body draft).map (Draft.only (decide <| · = name)) =
      (runAll call argument body other).map (Draft.only (decide <| · = name)) := by
  induction body generalizing draft other with
  | nil => cases hsets
  | cons statement body ih =>
    have hstep := statement.run_congr (hcall fun _ => false) argument h
    cases hhead : statement.sets name with
    | true =>
      cases statement with
      | set a =>
        have hname : a.name = name := of_decide_eq_true hhead
        have hnode : draft.node = other.node := by
          change (draft.only fun _ => false).node = (other.only fun _ => false).node
          rw [h]
        rw [runAll, runAll]
        simp only [Statement.run, hnode]
        apply runAll_congr (hcall _)
        rw [← hname, ← Attribute.name_map (fun text => text.eval other.node argument) a] at single ⊢
        exact Draft.only_set_eq h single
      | _ => cases hhead
    | false =>
      rw [List.any_cons, hhead, Bool.false_or] at hsets
      exact runAll_cons_alike hstep fun hnext => ih hsets hnext

lemma runAll_cons_congr {α : Type} (call : Call) (argument : String) (statement : Statement)
    {body other : List Statement} {view : Draft → α}
    (h : ∀ draft, (runAll call argument body draft).map view =
      (runAll call argument other draft).map view) (draft : Draft) :
    (runAll call argument (statement :: body) draft).map view =
      (runAll call argument (statement :: other) draft).map view := by
  rw [runAll_cons, runAll_cons]
  cases statement.run call argument draft with
  | none => rfl
  | some next => exact h next

lemma isSetting_of_mem_declarations {body : List Statement} {statement : Statement}
    (h : statement ∈ declarations body) : statement.isSetting = false := by
  simpa using (List.mem_filter.mp h).2

/-- Seen through one attribute, a body runs like its declarations with what decides the attribute. -/
lemma runAll_weave (hcall : ∀ keep, call.Separates keep) (argument : String) (name : AttributeName)
    (body : List Statement) (draft : Draft) :
    (runAll call argument body draft).map (Draft.only (decide <| · = name)) =
      (runAll call argument (weave (declarations body) (deciding name body)) draft).map
        (Draft.only (decide <| · = name)) := by
  induction body generalizing draft with
  | nil => rfl
  | cons statement body ih =>
    cases hset : statement.isSetting with
    | false =>
      have hdeclared : declarations (statement :: body) = statement :: declarations body := by
        simp [declarations, hset]
      have hsets : statement.sets name = false := by
        cases statement with
        | set a => cases hset
        | _ => rfl
      have hweave : weave (declarations (statement :: body)) (deciding name (statement :: body)) =
          statement :: weave (declarations body) (deciding name body) := by
        cases hcalls : statement.isCall
        all_goals simp [hdeclared, weave, deciding, hcalls, hsets]
      rw [hweave]
      exact runAll_cons_congr call argument statement ih draft
    | true =>
      cases statement with
      | set a =>
        have hdeclared : declarations (.set a :: body) = declarations body := rfl
        have hcalls : (Statement.set a).isCall = false := rfl
        rw [hdeclared]
        by_cases hname : a.name = name
        · have hsets : (Statement.set a).sets name = true := decide_eq_true hname
          by_cases hlast : (decide (name = .gem) || !body.any (·.sets name)) = true
          · have hdeciding : deciding name (.set a :: body) = .set a :: deciding name body := by
              rw [deciding, if_neg (by simp [hcalls]), hsets, Bool.true_and, if_pos hlast]
            rw [hdeciding, runAll_weave_set call argument a fun s => isSetting_of_mem_declarations]
            exact runAll_cons_congr call argument (.set a) ih draft
          · have hdeciding : deciding name (.set a :: body) = deciding name body := by
              rw [deciding, if_neg (by simp [hcalls]), hsets, Bool.true_and, if_neg hlast]
            obtain ⟨hsingle, hlater⟩ : name ≠ .gem ∧ body.any (·.sets name) = true := by
              simpa using hlast
            rw [hdeciding, ← ih draft]
            exact runAll_of_sets hcall argument hsingle hlater (Draft.only_set_of_dropped rfl draft)
        · have hdeciding : deciding name (.set a :: body) = deciding name body := by
            simp [deciding, hcalls, Statement.sets, hname]
          rw [hdeciding, ← ih draft]
          have hdropped : decide ((a.map fun text => text.eval draft.node argument).name = name) =
              false := by
            rw [Attribute.name_map]
            exact decide_eq_false hname
          exact runAll_congr (hcall _) argument body (Draft.only_set_of_dropped hdropped draft)
      | _ => cases hset

/-- Bodies with the same values run alike. -/
lemma SameValues.runAll_eq (hcall : ∀ keep, call.Separates keep) (argument : String)
    {body other : List Statement} (h : SameValues body other) (draft : Draft) :
    runAll call argument body draft = runAll call argument other draft := by
  have hsame : ∀ name, (runAll call argument body draft).map (Draft.only (decide <| · = name)) =
      (runAll call argument other draft).map (Draft.only (decide <| · = name)) := by
    intro name
    rw [runAll_weave hcall, runAll_weave hcall argument name other, h.declarations, h.deciding]
  cases hbody : runAll call argument body draft with
  | none =>
    have hnone := hsame .path
    rw [hbody, Option.map_none] at hnone
    exact (Option.map_eq_none_iff.mp hnone.symm).symm
  | some next =>
    rw [hbody] at hsame
    obtain ⟨next', hother, -⟩ := Option.map_eq_some_iff.mp (hsame .path).symm
    rw [hother] at hsame ⊢
    exact congrArg some (Draft.eq_of_only fun name => Option.some.inj (hsame name))

end

namespace SameValues

variable {body other third : List Statement}

lemma refl (body : List Statement) : SameValues body body := ⟨rfl, fun _ => rfl⟩

lemma symm (h : SameValues body other) : SameValues other body :=
  ⟨h.declarations.symm, fun name => (h.deciding name).symm⟩

lemma trans (h : SameValues body other) (h' : SameValues other third) : SameValues body third :=
  ⟨h.declarations.trans h'.declarations, fun name => (h.deciding name).trans (h'.deciding name)⟩

lemma any_deciding (name : AttributeName) (body : List Statement) :
    (Program.deciding name body).any (·.sets name) = body.any (·.sets name) := by
  induction body with
  | nil => rfl
  | cons statement body ih =>
    unfold Program.deciding
    split
    · rw [List.any_cons, List.any_cons, ih]
    · split
      · rw [List.any_cons, List.any_cons, ih]
      · next hdropped =>
        rw [ih, List.any_cons]
        cases hsets : statement.sets name with
        | false => rw [Bool.false_or]
        | true =>
          rw [hsets, Bool.true_and, Bool.or_eq_true, not_or] at hdropped
          simpa using hdropped.2

lemma cons (h : SameValues body other) (statement : Statement) :
    SameValues (statement :: body) (statement :: other) where
  declarations := by
    have hrest := h.declarations
    unfold Program.declarations at hrest ⊢
    rw [List.filter_cons, List.filter_cons, hrest]
  deciding name := by
    have hlater : body.any (·.sets name) = other.any (·.sets name) := by
      rw [← any_deciding, h.deciding, any_deciding]
    simp only [Program.deciding, h.deciding name, hlater]

lemma append_left (h : SameValues body other) (before : List Statement) :
    SameValues (before ++ body) (before ++ other) := by
  induction before with
  | nil => exact h
  | cons statement before ih => exact ih.cons statement

lemma swap (a : Attribute Operand) {statement : Statement} (hcall : statement.isCall = false)
    (hsets : statement.sets a.name = false) (rest : List Statement) :
    SameValues (.set a :: statement :: rest) (statement :: .set a :: rest) where
  declarations := by
    have hset : (Statement.set a).isSetting = true := rfl
    simp [Program.declarations, hset, List.filter_cons]
  deciding name := by
    have hcalls : (Statement.set a).isCall = false := rfl
    by_cases hname : a.name = name
    · subst hname
      have hset : (Statement.set a).sets a.name = true := decide_eq_true rfl
      simp [Program.deciding, hcall, hcalls, hsets, hset]
    · have hset : (Statement.set a).sets name = false := decide_eq_false hname
      simp [Program.deciding, hcall, hcalls, hset]

/-- An attribute can be set at any other place, but for calls of helpers and the same attribute. -/
lemma move (a : Attribute Operand) {middle : List Statement}
    (h : ∀ s ∈ middle, s.isCall = false ∧ s.sets a.name = false) (before after : List Statement) :
    SameValues (before ++ .set a :: (middle ++ after)) (before ++ (middle ++ .set a :: after)) := by
  apply append_left
  induction middle with
  | nil => exact refl _
  | cons statement middle ih =>
    rw [List.forall_mem_cons] at h
    exact (swap a h.1.1 h.1.2 (middle ++ after)).trans ((ih h.2).cons statement)

/-- A value that another one replaces does not count. -/
lemma replaced {a : Attribute Operand} (single : a.name ≠ .gem) (before : List Statement)
    {after : List Statement} (h : after.any (·.sets a.name) = true) :
    SameValues (before ++ .set a :: after) (before ++ after) := by
  apply append_left
  refine ⟨rfl, fun name => ?_⟩
  have hcalls : (Statement.set a).isCall = false := rfl
  by_cases hname : a.name = name
  · subst hname
    simp [Program.deciding, hcalls, single, h]
  · have hset : (Statement.set a).sets name = false := decide_eq_false hname
    simp [Program.deciding, hcalls, hset]

end SameValues

end Program

end SetupRecipe
