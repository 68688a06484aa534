import SetupRecipe.Program.Draft

/-!
# Running programs

Statements run in order on a draft. Helpers may call themselves, so that not every run ends: the
depth bounds how many calls may be open at once, and a run that would exceed it has no result. A
result does not depend on the depth once the depth is large enough.
-/

namespace SetupRecipe.Program

/-- What a call of a helper does: it runs the body of the helper with the argument. -/
abbrev Call := Program → String → Draft → Option Draft

mutual

/-- Runs one statement inside a helper with the given argument. -/
def Statement.run (call : Call) (argument : String) : Statement → Draft → Option Draft
  | .echo message, draft => some (draft.echo (message.eval draft.node argument))
  | .haltOnFailedCommand, draft => some draft.haltOnFailedCommand
  | .logTo path, draft => some (draft.logTo (path.eval draft.node argument))
  | .block kind label body, draft =>
    (runAll call argument body (draft.openBlock kind (label.eval draft.node argument))).map
      draft.closeBlock
  | .command text, draft => some (draft.command (text.eval draft.node argument))
  | .set setting, draft => some (draft.set (setting.map fun text => text.eval draft.node argument))
  | .define target name body, draft => some (draft.define target name body)
  | .call name text, draft =>
    match draft.helper? name with
    | some body => call body (text.eval draft.node argument) draft
    | none => some (draft.deferUnknownHelper name)

def runAll (call : Call) (argument : String) : List Statement → Draft → Option Draft
  | [], draft => some draft
  | statement :: statements, draft =>
    match statement.run call argument draft with
    | some next => runAll call argument statements next
    | none => none

end

theorem runAll_cons (call : Call) (argument : String) (statement : Statement)
    (statements : List Statement) (draft : Draft) :
    runAll call argument (statement :: statements) draft =
      (statement.run call argument draft).bind (runAll call argument statements) := by
  rw [runAll]
  cases statement.run call argument draft with
  | none => rfl
  | some next => rfl

/-- A run has a first step and a rest. -/
theorem runAll_cons_eq_some_iff {call : Call} {argument : String} {statement : Statement}
    {statements : List Statement} {draft next : Draft} :
    runAll call argument (statement :: statements) draft = some next ↔
      ∃ middle, statement.run call argument draft = some middle ∧
        runAll call argument statements middle = some next := by
  rw [runAll_cons, Option.bind_eq_some_iff]

/-- Runs the body of a helper with at most `depth` calls open. -/
def callWithin : Nat → Call
  | 0 => fun _ _ _ => none
  | depth + 1 => fun body argument draft => runAll (callWithin depth) argument body draft

/-- Runs statements on a draft with at most `depth` calls open. -/
def run (depth : Nat) (program : Program) (draft : Draft) : Option Draft :=
  runAll (callWithin depth) "" program draft

/-- The block of a recipe with the given statements. -/
def evaluate (depth : Nat) (program : Program) (node : NodeData) : Option Block :=
  (run depth program (.recipe node)).map Draft.toBlock

/-- The number of open calls that every recipe is given. -/
def defaultDepth : Nat := 10000

end SetupRecipe.Program
