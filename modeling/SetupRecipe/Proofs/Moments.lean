import SetupRecipe.Program.Run
import SetupRecipe.Proofs.Growth

/-!
# Moments of a run

A run goes through moments, one statement after the other. At each of them some blocks are open, and
for every open block there are statements that it still waits for. Going from moment to moment ends
with the same block as the run does, and does not end if the run does not.
-/

namespace SetupRecipe.Program

/-- Statements that are still to run on a block, each with the argument of the helper around it. -/
abbrev Todo := List (String × Statement)

/-- A moment of a run: the innermost open block, and the blocks around it, the nearest one first. -/
structure Moment where
  block : Draft
  todo : Todo
  around : List (Draft × Todo)

/-- Statements of one helper, or of the recipe. -/
def todoOf (argument : String) (statements : List Statement) : Todo :=
  statements.map fun statement => (argument, statement)

namespace Moment

def start (program : Program) (node : NodeData) : Moment := ⟨.recipe node, todoOf "" program, []⟩

/-- The moment after the next statement. A helper that is called puts its statements in front, and a
block with nothing left to run is closed. -/
def next? : Moment → Option Moment
  | ⟨block, (argument, statement) :: todo, around⟩ =>
    match statement with
    | .echo message => some ⟨block.echo (message.eval block.node argument), todo, around⟩
    | .haltOnFailedCommand => some ⟨block.haltOnFailedCommand, todo, around⟩
    | .logTo path =>
      some ⟨block.openBlock .log (path.eval block.node argument),
        todoOf argument [.set (.path path)], (block, todo) :: around⟩
    | .block kind label body =>
      some ⟨block.openBlock kind (label.eval block.node argument), todoOf argument body,
        (block, todo) :: around⟩
    | .command text => some ⟨block.command (text.eval block.node argument), todo, around⟩
    | .set setting =>
      some ⟨block.set (setting.map fun text => text.eval block.node argument), todo, around⟩
    | .define target name body => some ⟨block.define target name body, todo, around⟩
    | .call name text =>
      match block.helper? name with
      | some body => some ⟨block, todoOf (text.eval block.node argument) body ++ todo, around⟩
      | none => some ⟨block.deferUnknownHelper name, todo, around⟩
  | ⟨inner, [], (block, todo) :: around⟩ => some ⟨block.closeBlock inner, todo, around⟩
  | ⟨_, [], []⟩ => none

/-- The moment that comes some steps later. -/
def after : Nat → Moment → Option Moment
  | 0, moment => some moment
  | time + 1, moment => moment.next?.bind (after time)

def Leads (moment later : Moment) : Prop := ∃ time, moment.after time = some later

/-- After some steps nothing is left to run, and only the block of the recipe is open. -/
def EndsIn (moment : Moment) (time : Nat) (final : Draft) : Prop :=
  moment.after time = some ⟨final, [], []⟩

namespace Leads

variable {moment middle later : Moment}

lemma refl (moment : Moment) : moment.Leads moment := ⟨0, rfl⟩

lemma step (h : moment.next? = some middle) (hrest : middle.Leads later) : moment.Leads later := by
  obtain ⟨time, htime⟩ := hrest
  refine ⟨time + 1, ?_⟩
  rw [after, h]
  exact htime

lemma single (h : moment.next? = some later) : moment.Leads later := step h (refl later)

lemma trans (h : moment.Leads middle) (hrest : middle.Leads later) : moment.Leads later := by
  obtain ⟨time, htime⟩ := h
  induction time generalizing moment with
  | zero =>
    obtain rfl := Option.some.inj htime
    exact hrest
  | succ time ih =>
    obtain ⟨next, hnext, htime⟩ := Option.bind_eq_some_iff.mp htime
    exact step hnext (ih htime)

end Leads

end Moment

open Moment

/-! ## Runs are walks -/

/-- Calls that walk through the statements of the helper. -/
def Call.Walks (call : Call) : Prop :=
  ∀ body given draft next, call body given draft = some next → ∀ todo around,
    Leads ⟨draft, todoOf given body ++ todo, around⟩ ⟨next, todo, around⟩

section

variable {call : Call}

mutual

lemma Statement.run_leads (hcall : call.Walks) (argument : String) (statement : Statement)
    {draft next : Draft} (h : statement.run call argument draft = some next) (todo : Todo)
    (around : List (Draft × Todo)) :
    Leads ⟨draft, (argument, statement) :: todo, around⟩ ⟨next, todo, around⟩ := by
  cases statement with
  | block kind label body =>
    obtain ⟨inner, hinner, rfl⟩ := Option.map_eq_some_iff.mp h
    have hbody := runAll_leads hcall argument body hinner [] ((draft, todo) :: around)
    rw [List.append_nil] at hbody
    have hclose : Leads ⟨inner, [], (draft, todo) :: around⟩
        ⟨draft.closeBlock inner, todo, around⟩ := .single rfl
    exact .step rfl (hbody.trans hclose)
  | call name text =>
    rw [Statement.run] at h
    cases hhelper : draft.helper? name with
    | some body =>
      rw [hhelper] at h
      apply Leads.step
      · rw [next?, hhelper]
      · exact hcall body _ draft next h todo around
    | none =>
      rw [hhelper] at h
      obtain rfl := Option.some.inj h
      apply Leads.single
      rw [next?, hhelper]
  | logTo path =>
    obtain rfl := Option.some.inj h
    exact .step rfl (.step rfl (.single rfl))
  | _ =>
    obtain rfl := Option.some.inj h
    exact .single rfl

lemma runAll_leads (hcall : call.Walks) (argument : String) (statements : List Statement)
    {draft next : Draft} (h : runAll call argument statements draft = some next) (todo : Todo)
    (around : List (Draft × Todo)) :
    Leads ⟨draft, todoOf argument statements ++ todo, around⟩ ⟨next, todo, around⟩ := by
  cases statements with
  | nil =>
    obtain rfl := Option.some.inj h
    exact .refl _
  | cons statement statements =>
    obtain ⟨middle, hstep, hrest⟩ := runAll_cons_eq_some_iff.mp h
    exact (statement.run_leads hcall argument hstep _ around).trans
      (runAll_leads hcall argument statements hrest todo around)

end

end

lemma callWithin_walks (depth : Nat) : (callWithin depth).Walks := by
  induction depth with
  | zero => exact fun _ _ _ _ h => nomatch h
  | succ depth ih => exact fun body given _ _ h => runAll_leads ih given body h

/-! ## Walks that end are runs -/

/-- Calls that have the results of other calls, and maybe more. -/
def Call.Extends (more call : Call) : Prop :=
  ∀ body given draft next, call body given draft = some next → more body given draft = some next

section

variable {call more : Call}

mutual

lemma Statement.run_extends (hcall : more.Extends call) (argument : String) (statement : Statement)
    {draft next : Draft} (h : statement.run call argument draft = some next) :
    statement.run more argument draft = some next := by
  cases statement with
  | block kind label body =>
    obtain ⟨inner, hinner, rfl⟩ := Option.map_eq_some_iff.mp h
    rw [Statement.run, runAll_extends hcall argument body hinner]
    rfl
  | call name text =>
    rw [Statement.run] at h ⊢
    cases hhelper : draft.helper? name with
    | some body =>
      rw [hhelper] at h
      exact hcall body _ draft next h
    | none =>
      rw [hhelper] at h
      exact h
  | _ => exact h

lemma runAll_extends (hcall : more.Extends call) (argument : String) (statements : List Statement)
    {draft next : Draft} (h : runAll call argument statements draft = some next) :
    runAll more argument statements draft = some next := by
  cases statements with
  | nil => exact h
  | cons statement statements =>
    obtain ⟨middle, hstep, hrest⟩ := runAll_cons_eq_some_iff.mp h
    exact runAll_cons_eq_some_iff.mpr ⟨middle, statement.run_extends hcall argument hstep,
      runAll_extends hcall argument statements hrest⟩

end

end

/-- A result does not depend on the depth, once the depth is large enough. -/
lemma callWithin_extends {depth deeper : Nat} (h : depth ≤ deeper) :
    (callWithin deeper).Extends (callWithin depth) := by
  induction depth generalizing deeper with
  | zero => exact fun _ _ _ _ h => nomatch h
  | succ depth ih =>
    obtain ⟨deeper, rfl⟩ : ∃ n, deeper = n + 1 := ⟨deeper - 1, by omega⟩
    exact fun body given _ _ hrun => runAll_extends (ih (by omega)) given body hrun

/-- A walk that ends within the given time has run the statements in front of the others. -/
def Returns (time : Nat) : Prop :=
  ∀ argument statements draft todo around final,
    EndsIn ⟨draft, todoOf argument statements ++ todo, around⟩ time final →
      ∃ depth next rest, rest ≤ time ∧
        runAll (callWithin depth) argument statements draft = some next ∧
        EndsIn ⟨next, todo, around⟩ rest final

section

variable {time : Nat} (returns : ∀ earlier ≤ time, Returns earlier)
include returns

/-- A nested block is run, and then closed. -/
lemma exists_block_of_endsIn {argument : String} {body : List Statement} {inner draft final : Draft}
    {todo : Todo} {around : List (Draft × Todo)}
    (h : EndsIn ⟨inner, todoOf argument body, (draft, todo) :: around⟩ time final) :
    ∃ depth next rest, rest ≤ time ∧
      runAll (callWithin depth) argument body inner = some next ∧
      EndsIn ⟨draft.closeBlock next, todo, around⟩ rest final := by
  rw [← List.append_nil (todoOf argument body)] at h
  obtain ⟨depth, next, rest, hrest, hrun, hend⟩ := returns time (Nat.le_refl time) _ _ _ _ _ _ h
  cases rest with
  | zero => exact nomatch hend
  | succ rest => exact ⟨depth, next, rest, by omega, hrun, hend⟩

lemma Statement.exists_run_of_endsIn {argument : String} (statement : Statement)
    {draft final : Draft} {todo : Todo} {around : List (Draft × Todo)}
    (h : EndsIn ⟨draft, (argument, statement) :: todo, around⟩ (time + 1) final) :
    ∃ depth next rest, rest ≤ time ∧
      statement.run (callWithin depth) argument draft = some next ∧
      EndsIn ⟨next, todo, around⟩ rest final := by
  obtain ⟨moment, hmoment, h⟩ := Option.bind_eq_some_iff.mp h
  cases statement with
  | block kind label body =>
    obtain rfl := Option.some.inj hmoment
    obtain ⟨depth, inner, rest, hrest, hrun, hend⟩ := exists_block_of_endsIn returns h
    refine ⟨depth, _, rest, hrest, ?_, hend⟩
    rw [Statement.run, hrun]
    rfl
  | logTo path =>
    obtain rfl := Option.some.inj hmoment
    obtain ⟨depth, inner, rest, hrest, hrun, hend⟩ := exists_block_of_endsIn returns h
    obtain rfl := Option.some.inj hrun
    exact ⟨0, _, rest, hrest, rfl, hend⟩
  | call name text =>
    rw [next?] at hmoment
    cases hhelper : draft.helper? name with
    | some body =>
      rw [hhelper] at hmoment
      obtain rfl := Option.some.inj hmoment
      obtain ⟨depth, next, rest, hrest, hrun, hend⟩ := returns time (Nat.le_refl time) _ _ _ _ _ _ h
      refine ⟨depth + 1, next, rest, hrest, ?_, hend⟩
      rw [Statement.run, hhelper]
      exact hrun
    | none =>
      rw [hhelper] at hmoment
      obtain rfl := Option.some.inj hmoment
      refine ⟨0, _, time, Nat.le_refl time, ?_, h⟩
      rw [Statement.run, hhelper]
  | _ =>
    obtain rfl := Option.some.inj hmoment
    exact ⟨0, _, time, Nat.le_refl time, rfl, h⟩

end

lemma returns_of_endsIn (time : Nat) : Returns time := by
  induction time using Nat.strongRecOn with
  | ind time ih =>
    intro argument statements draft todo around final h
    cases statements with
    | nil => exact ⟨0, draft, time, Nat.le_refl time, rfl, h⟩
    | cons statement statements =>
      cases time with
      | zero => exact nomatch h
      | succ time =>
        obtain ⟨first, middle, rest, hrest, hstep, h⟩ := statement.exists_run_of_endsIn
          (fun earlier hearlier => ih earlier (by omega)) h
        obtain ⟨second, next, last, hlast, hrun, hend⟩ := ih rest (by omega) _ _ _ _ _ _ h
        refine ⟨max first second, next, last, by omega, ?_, hend⟩
        rw [runAll, statement.run_extends (callWithin_extends (Nat.le_max_left first second))
          argument hstep]
        exact runAll_extends (callWithin_extends (Nat.le_max_right first second)) argument _ hrun

/-- A run has a result exactly when going from moment to moment ends with it. -/
lemma exists_run_iff_endsIn (program : Program) (node : NodeData) (final : Draft) :
    (∃ depth, run depth program (.recipe node) = some final) ↔
      ∃ time, (start program node).EndsIn time final := by
  constructor
  · rintro ⟨depth, hrun⟩
    have hwalk := runAll_leads (callWithin_walks depth) "" program hrun [] []
    rw [List.append_nil] at hwalk
    exact hwalk
  · rintro ⟨time, hend⟩
    unfold start at hend
    rw [← List.append_nil (todoOf "" program)] at hend
    obtain ⟨depth, next, rest, -, hrun, hrest⟩ := returns_of_endsIn time _ _ _ _ _ _ hend
    cases rest with
    | zero =>
      obtain rfl := congrArg Moment.block (Option.some.inj hrest)
      exact ⟨depth, hrun⟩
    | succ rest => exact nomatch hrest

end SetupRecipe.Program
