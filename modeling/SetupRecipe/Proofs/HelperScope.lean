import Mathlib.Tactic.Lemma
import SetupRecipe.Program.Run

/-!
# Scopes of helpers

Which helper a call runs is a matter of what was executed before: the definitions on the block of the
call, then those on the blocks around it. The events of a run are recorded here, and the helper of
every call is found again by going back through them. Blocks that were closed in the meantime are
passed over.
-/

namespace SetupRecipe.Program

inductive Event where
  | opened
  | closed
  | defined (target : Target) (name : String) (body : Program)
  /-- A call on a block, and the block after it if the call ended. What the helper does comes later. -/
  | called (block : Draft) (name argument : String) (result : Option Draft)

/-- The latest definition in a history, newest event first, that stands on a block that is still
open; so many of the blocks that were opened in it are closed by now. -/
def latestDefinition (target : Target) (name : String) : Nat → List Event → Option Program
  | _, [] => none
  | 0, .opened :: past => latestDefinition target name 0 past
  | closed + 1, .opened :: past => latestDefinition target name closed past
  | closed, .closed :: past => latestDefinition target name (closed + 1) past
  | 0, .defined t n body :: past =>
    if t = target ∧ n = name then some body else latestDefinition target name 0 past
  | closed + 1, .defined _ _ _ :: past => latestDefinition target name (closed + 1) past
  | closed, .called _ _ _ _ :: past => latestDefinition target name closed past

/-- The helper that is visible after some events: the latest one that was defined on the same block,
or else the latest one on the block around it before the block was opened, and so on outwards. -/
def visibleHelper (events : List Event) (target : Target) (name : String) : Option Program :=
  latestDefinition target name 0 events.reverse

/-! ## Recording a run -/

abbrev LoggedCall := Program → String → Draft → List Event × Option Draft

mutual

/-- Runs one statement and records what happens, also if the run does not end. -/
def Statement.logged (call : LoggedCall) (argument : String) :
    Statement → Draft → List Event × Option Draft
  | .echo message, draft => ([], some (draft.echo (message.eval draft.node argument)))
  | .haltOnFailedCommand, draft => ([], some draft.haltOnFailedCommand)
  | .logTo path, draft => ([], some (draft.logTo (path.eval draft.node argument)))
  | .block kind label body, draft =>
    match loggedAll call argument body (draft.openBlock kind (label.eval draft.node argument)) with
    | (events, some inner) => (.opened :: (events ++ [.closed]), some (draft.closeBlock inner))
    | (events, none) => (.opened :: events, none)
  | .command text, draft => ([], some (draft.command (text.eval draft.node argument)))
  | .set setting, draft =>
    ([], some (draft.set (setting.map fun text => text.eval draft.node argument)))
  | .define target name body, draft =>
    ([.defined target name body], some (draft.define target name body))
  | .call name text, draft =>
    let given := text.eval draft.node argument
    match draft.helper? name with
    | some body =>
      let (events, result) := call body given draft
      (.called draft name given result :: events, result)
    | none =>
      let result := some (draft.deferUnknownHelper name)
      ([.called draft name given result], result)

def loggedAll (call : LoggedCall) (argument : String) :
    List Statement → Draft → List Event × Option Draft
  | [], draft => ([], some draft)
  | statement :: statements, draft =>
    match statement.logged call argument draft with
    | (events, some next) =>
      let (more, result) := loggedAll call argument statements next
      (events ++ more, result)
    | (events, none) => (events, none)

end

def loggedCallWithin : Nat → LoggedCall
  | 0 => fun _ _ _ => ([], none)
  | depth + 1 => fun body argument draft => loggedAll (loggedCallWithin depth) argument body draft

/-- Runs the statements of a recipe with at most `depth` calls open and records what happens. -/
def loggedRun (depth : Nat) (program : Program) (node : NodeData) : List Event × Option Draft :=
  loggedAll (loggedCallWithin depth) "" program (.recipe node)

section

variable {call : Call} {logged : LoggedCall}

mutual

lemma Statement.logged_snd
    (hcall : ∀ body given draft, (logged body given draft).2 = call body given draft)
    (argument : String) (statement : Statement) (draft : Draft) :
    (statement.logged logged argument draft).2 = statement.run call argument draft := by
  cases statement with
  | block kind label body =>
    have hbody := loggedAll_snd hcall argument body
      (draft.openBlock kind (label.eval draft.node argument))
    simp only [Statement.logged, Statement.run, ← hbody]
    rcases loggedAll logged argument body _ with ⟨events, _ | inner⟩
    · rfl
    · rfl
  | call name text =>
    simp only [Statement.logged, Statement.run]
    cases draft.helper? name with
    | some body => exact hcall body _ draft
    | none => rfl
  | _ => rfl

lemma loggedAll_snd
    (hcall : ∀ body given draft, (logged body given draft).2 = call body given draft)
    (argument : String) (statements : List Statement) (draft : Draft) :
    (loggedAll logged argument statements draft).2 = runAll call argument statements draft := by
  cases statements with
  | nil => rfl
  | cons statement statements =>
    have hstatement := statement.logged_snd hcall argument draft
    rw [loggedAll, runAll, ← hstatement]
    rcases statement.logged logged argument draft with ⟨events, _ | next⟩
    · rfl
    · exact loggedAll_snd hcall argument statements next

end

end

lemma loggedCallWithin_snd (depth : Nat) (body : Program) (given : String) (draft : Draft) :
    (loggedCallWithin depth body given draft).2 = callWithin depth body given draft := by
  induction depth generalizing body given draft with
  | zero => rfl
  | succ depth ih => exact loggedAll_snd ih given body draft

/-- Recording does not change a run. -/
lemma loggedRun_snd (depth : Nat) (program : Program) (node : NodeData) :
    (loggedRun depth program node).2 = run depth program (.recipe node) :=
  loggedAll_snd (loggedCallWithin_snd depth) "" program (.recipe node)

/-! ## Histories and drafts -/

/-- The helper that a draft sees under a name, for any kind of block. -/
def Draft.lookup (draft : Draft) (target : Target) (name : String) : Option Program :=
  (draft.helpers :: draft.outer).findSome? fun helpers => helpers.get? target name

/-- A draft sees what was defined in a history, newest event first. -/
def Tracks (past : List Event) (draft : Draft) : Prop :=
  ∀ target name, draft.lookup target name = latestDefinition target name 0 past

namespace Tracks

variable {past : List Event} {draft next : Draft}

lemma recipe (node : NodeData) : Tracks [] (.recipe node) := fun _ _ => rfl

lemma of_eq (h : Tracks past draft) (hhelpers : next.helpers = draft.helpers)
    (houter : next.outer = draft.outer) : Tracks past next := by
  intro target name
  rw [Draft.lookup, hhelpers, houter]
  exact h target name

lemma openBlock (h : Tracks past draft) (kind : BlockKind) (label : String) :
    Tracks (.opened :: past) (draft.openBlock kind label) := by
  intro target name
  have hscope : draft.scope.findSome? (fun helpers => helpers.get? target name) =
      draft.lookup target name := by
    unfold Draft.scope Draft.lookup
    cases hhelpers : draft.helpers with
    | nil => rfl
    | cons helper helpers => rfl
  rw [latestDefinition, ← h target name, ← hscope]
  rfl

end Tracks

lemma Helpers.get?_cons (key : Target × String) (old : Program) (helpers : Helpers)
    (target : Target) (name : String) :
    get? ((key, old) :: helpers) target name =
      if key = (target, name) then some old else helpers.get? target name := by
  unfold get?
  rw [List.lookup_cons]
  by_cases h : key = (target, name)
  · simp [h]
  · have hne : ((target, name) == key) = false := by simpa using Ne.symm h
    rw [hne, if_neg h]

lemma Helpers.get?_insert (helpers : Helpers) (target t : Target) (name n : String)
    (body : Program) :
    (helpers.insert t n body).get? target name =
      if (t, n) = (target, name) then some body else helpers.get? target name := by
  induction helpers with
  | nil => rw [insert, get?_cons]
  | cons helper helpers ih =>
    obtain ⟨key, old⟩ := helper
    rw [insert]
    by_cases hkey : key = (t, n)
    · rw [if_pos hkey, get?_cons, get?_cons, hkey]
      by_cases h : (t, n) = (target, name)
      · rw [if_pos h, if_pos h]
      · rw [if_neg h, if_neg h, if_neg h]
    · rw [if_neg hkey, get?_cons, get?_cons, ih]
      by_cases h : (t, n) = (target, name)
      · rw [if_neg (h ▸ hkey), if_pos h, if_pos h]
      · rw [if_neg h, if_neg h]

lemma Tracks.define {past : List Event} {draft : Draft} (h : Tracks past draft) (t : Target)
    (n : String) (body : Program) : Tracks (.defined t n body :: past) (draft.define t n body) := by
  intro target name
  rw [latestDefinition, ← h target name]
  unfold Draft.lookup Draft.define
  rw [List.findSome?_cons, List.findSome?_cons, Helpers.get?_insert]
  by_cases hkey : (t, n) = (target, name)
  · rw [if_pos hkey, if_pos (Prod.mk.inj hkey)]
  · rw [if_neg hkey, if_neg fun h => hkey (Prod.ext h.1 h.2)]

/-- The events of blocks that are closed by now do not matter. -/
def Passed (events : List Event) : Prop :=
  ∀ target name closed past, latestDefinition target name (closed + 1) (events.reverse ++ past) =
    latestDefinition target name (closed + 1) past

namespace Passed

lemma nil : Passed [] := fun _ _ _ _ => rfl

lemma append {first second : List Event} (hfirst : Passed first) (hsecond : Passed second) :
    Passed (first ++ second) := by
  intro target name closed past
  rw [List.reverse_append, List.append_assoc, hsecond, hfirst]

lemma defined (t : Target) (n : String) (body : Program) : Passed [.defined t n body] :=
  fun _ _ _ _ => rfl

lemma called {events : List Event} (h : Passed events) (block : Draft) (name argument : String)
    (result : Option Draft) : Passed (.called block name argument result :: events) := by
  intro target n closed past
  rw [List.reverse_cons, List.append_assoc, h]
  rfl

/-- A block that was opened and closed leaves nothing behind, on whatever block it was opened. -/
lemma latestDefinition_block {events : List Event} (h : Passed events) (target : Target)
    (name : String) (closed : Nat) (past : List Event) :
    latestDefinition target name closed ((.opened :: (events ++ [.closed])).reverse ++ past) =
      latestDefinition target name closed past := by
  have hreverse : (Event.opened :: (events ++ [.closed])).reverse ++ past =
      .closed :: (events.reverse ++ .opened :: past) := by
    simp
  rw [hreverse, latestDefinition, h]
  rfl

lemma block {events : List Event} (h : Passed events) :
    Passed (.opened :: (events ++ [.closed])) := by
  intro target name closed past
  exact h.latestDefinition_block target name (closed + 1) past

end Passed

/-! ## Calls -/

/-- A call runs the helper on its block, if there is one. If there is none, the block only keeps that
as its problem, unless it has one already. -/
def Draft.Calls (block : Draft) (helper : Option Program) (name argument : String)
    (result : Option Draft) : Prop :=
  match helper with
  | some body => ∀ next, result = some next →
      ∃ depth, runAll (callWithin depth) argument body block = some next
  | none => result =
      some { block with problem := block.problem.or (some (.unknownHelper block.scopeText name)) }

/-- The calls among some events run the helpers that are visible after the events before them. -/
def CallsVisible (past : List Event) : List Event → Prop
  | [] => True
  | event :: events =>
    (match event with
      | .called block name argument result =>
        block.Calls (latestDefinition block.target name 0 past) name argument result
      | _ => True) ∧ CallsVisible (event :: past) events

lemma callsVisible_append {past first second : List Event} :
    CallsVisible past (first ++ second) ↔
      CallsVisible past first ∧ CallsVisible (first.reverse ++ past) second := by
  induction first generalizing past with
  | nil => simp [CallsVisible]
  | cons event first ih => simp [CallsVisible, ih, and_assoc]

/-- What a recorded part of a run shows after a history: its calls run what is visible, and if it
ends, then the block sees what was defined, while other blocks do not. -/
structure Scoped (past : List Event) (log : List Event × Option Draft) : Prop where
  calls : CallsVisible past log.1
  tracks : ∀ next, log.2 = some next → Tracks (log.1.reverse ++ past) next
  passed : ∀ next, log.2 = some next → Passed log.1

namespace Scoped

variable {past : List Event}

lemma nil {draft next : Draft} (h : Tracks past draft) (hhelpers : next.helpers = draft.helpers)
    (houter : next.outer = draft.outer) : Scoped past ([], some next) where
  calls := trivial
  tracks := by
    intro final hfinal
    obtain rfl := Option.some.inj hfinal
    exact h.of_eq hhelpers houter
  passed := fun _ _ => .nil

lemma append {events more : List Event} {next : Draft} {result : Option Draft}
    (hfirst : Scoped past (events, some next))
    (hrest : Scoped (events.reverse ++ past) (more, result)) :
    Scoped past (events ++ more, result) where
  calls := callsVisible_append.mpr ⟨hfirst.calls, hrest.calls⟩
  tracks := by
    intro final hfinal
    rw [List.reverse_append, List.append_assoc]
    exact hrest.tracks final hfinal
  passed := fun final hfinal => (hfirst.passed next rfl).append (hrest.passed final hfinal)

lemma unended {events : List Event} (h : CallsVisible past events) :
    Scoped past (events, none) where
  calls := h
  tracks := fun _ hnext => nomatch hnext
  passed := fun _ hnext => nomatch hnext

/-- What happens in a nested block stays in it. -/
lemma block {draft inner : Draft} {events : List Event} (h : Tracks past draft)
    (hbody : Scoped (.opened :: past) (events, some inner)) :
    Scoped past (.opened :: (events ++ [.closed]), some (draft.closeBlock inner)) where
  calls := ⟨trivial, callsVisible_append.mpr ⟨hbody.calls, trivial, trivial⟩⟩
  tracks := by
    intro final hfinal
    obtain rfl := Option.some.inj hfinal
    have hclose : Tracks past (draft.closeBlock inner) := by
      unfold Draft.closeBlock
      cases inner.resource with
      | none => exact h
      | some owner => exact h.of_eq rfl rfl
    intro target name
    rw [(hbody.passed inner rfl).latestDefinition_block]
    exact hclose target name
  passed := fun _ _ => (hbody.passed inner rfl).block

lemma define {draft : Draft} (h : Tracks past draft) (target : Target) (name : String)
    (body : Program) :
    Scoped past ([.defined target name body], some (draft.define target name body)) where
  calls := ⟨trivial, trivial⟩
  tracks := by
    intro final hfinal
    obtain rfl := Option.some.inj hfinal
    exact h.define target name body
  passed := fun _ _ => .defined target name body

lemma called {block : Draft} {name argument : String} {events : List Event} {result : Option Draft}
    (hcall : block.Calls (latestDefinition block.target name 0 past) name argument result)
    (hbody : Scoped (.called block name argument result :: past) (events, result)) :
    Scoped past (.called block name argument result :: events, result) where
  calls := ⟨hcall, hbody.calls⟩
  tracks := by
    intro final hfinal
    rw [List.reverse_cons, List.append_assoc]
    exact hbody.tracks final hfinal
  passed := fun final hfinal => (hbody.passed final hfinal).called block name argument result

end Scoped

lemma Tracks.called {past : List Event} {draft : Draft} (h : Tracks past draft) (block : Draft)
    (name argument : String) (result : Option Draft) :
    Tracks (.called block name argument result :: past) draft := by
  intro t n
  rw [h, latestDefinition]

/-- A recorded call that runs the body it is given, and records it. -/
structure LoggedCall.Sound (logged : LoggedCall) : Prop where
  record : ∀ past body given draft, Tracks past draft → Scoped past (logged body given draft)
  runs : ∀ body given draft next, (logged body given draft).2 = some next →
    ∃ depth, runAll (callWithin depth) given body draft = some next

section

variable {logged : LoggedCall}

mutual

/-- What one statement does to the history of its block. -/
lemma Statement.logged_scoped
    (hcall : logged.Sound) (argument : String) (statement : Statement) {past : List Event}
    {draft : Draft} (h : Tracks past draft) : Scoped past (statement.logged logged argument draft) := by
  cases statement with
  | echo message => exact .nil h rfl rfl
  | haltOnFailedCommand => exact .nil h rfl rfl
  | logTo path => exact .nil h rfl rfl
  | command text =>
    refine .nil h ?_ ?_
    · unfold Draft.command
      split <;> rfl
    · unfold Draft.command
      split <;> rfl
  | set setting => exact .nil h rfl rfl
  | define target name body => exact .define h target name body
  | block kind label body =>
    have hbody := loggedAll_scoped hcall argument body
      (h.openBlock kind (label.eval draft.node argument))
    rw [Statement.logged]
    rcases hlog : loggedAll logged argument body _ with ⟨events, _ | inner⟩
    · rw [hlog] at hbody
      exact .unended ⟨trivial, hbody.calls⟩
    · rw [hlog] at hbody
      exact .block h hbody
  | call name text =>
    have hvisible : draft.helper? name = latestDefinition draft.target name 0 past :=
      h draft.target name
    rw [Statement.logged]
    cases hhelper : draft.helper? name with
    | some body =>
      refine .called ?_ (hcall.record _ body _ draft (h.called draft name _ _))
      rw [← hvisible, hhelper]
      exact hcall.runs body _ draft
    | none =>
      refine .called ?_ (.nil (h.called draft name _ _) rfl rfl)
      rw [← hvisible, hhelper]
      rfl

lemma loggedAll_scoped
    (hcall : logged.Sound) (argument : String) (statements : List Statement) {past : List Event}
    {draft : Draft} (h : Tracks past draft) : Scoped past (loggedAll logged argument statements draft) := by
  cases statements with
  | nil => exact .nil h rfl rfl
  | cons statement statements =>
    have hstatement := statement.logged_scoped hcall argument h
    rw [loggedAll]
    rcases hlog : statement.logged logged argument draft with ⟨events, _ | next⟩
    · rw [hlog] at hstatement
      exact hstatement
    · rw [hlog] at hstatement
      exact .append hstatement
        (loggedAll_scoped hcall argument statements (hstatement.tracks next rfl))

end

end

lemma loggedCallWithin_sound (depth : Nat) : (loggedCallWithin depth).Sound := by
  induction depth with
  | zero => exact ⟨fun _ _ _ _ _ => .unended trivial, fun _ _ _ _ h => nomatch h⟩
  | succ depth ih =>
    refine ⟨fun past body given draft h => loggedAll_scoped ih given body h, ?_⟩
    intro body given draft next h
    rw [loggedCallWithin_snd] at h
    exact ⟨depth, h⟩

lemma CallsVisible.calls {past before after : List Event} {block result} {name argument : String}
    (h : CallsVisible past (before ++ .called block name argument result :: after)) :
    block.Calls (latestDefinition block.target name 0 (before.reverse ++ past)) name argument
      result :=
  (callsVisible_append.mp h).2.1

/-- Every call of a run, whether the run ends or not, runs the helper that is visible after the events
before it. -/
theorem loggedRun_calls_visible_helper (depth : Nat) (program : Program) (node : NodeData) :
    (loggedRun depth program node).2 = run depth program (.recipe node) ∧
      ∀ before after block name argument result,
        (loggedRun depth program node).1 = before ++ .called block name argument result :: after →
          block.Calls (visibleHelper before block.target name) name argument result := by
  refine ⟨loggedRun_snd depth program node, ?_⟩
  intro before after block name argument result hlog
  have hscoped : Scoped [] (loggedRun depth program node) :=
    loggedAll_scoped (loggedCallWithin_sound depth) "" program (.recipe node)
  have hcalls := hscoped.calls
  rw [hlog] at hcalls
  have h := hcalls.calls
  rw [List.append_nil] at h
  exact h

/-- A helper that defines another one, and a block that defines it anew, after its own call. -/
def redefinitions : Program :=
  [.define .recipe "set up" [.define (.block .execute) "report" [.command .argument]],
    .call "set up" (.text ""),
    .block .execute (.text "first")
      [.call "report" (.text "ls"), .define (.block .execute) "report" []],
    .block .execute (.text "second") [.call "report" (.text "pwd")]]

theorem loggedRun_calls_visible_helper_redefinitions :
    ∃ before after block next,
      (loggedRun 2 redefinitions ⟨[]⟩).1 =
        before ++ .called block "report" "pwd" (some next) :: after ∧
      block.Calls (some [.command .argument]) "report" "pwd" (some next) ∧
      ∃ depth, runAll (callWithin depth) "pwd" [.command .argument] block = some next := by
  have hlog : (loggedRun 2 redefinitions ⟨[]⟩).1 =
      (loggedRun 2 redefinitions ⟨[]⟩).1.take 8 ++
        .called _ "report" "pwd" (some _) :: (loggedRun 2 redefinitions ⟨[]⟩).1.drop 9 := rfl
  have h := (loggedRun_calls_visible_helper 2 redefinitions ⟨[]⟩).2 _ _ _ _ _ _ hlog
  exact ⟨_, _, _, _, hlog, h, h _ rfl⟩

end SetupRecipe.Program
