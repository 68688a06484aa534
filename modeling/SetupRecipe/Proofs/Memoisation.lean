import Mathlib.Tactic.Lemma
import SetupRecipe.Document.Store

/-!
# Scripts are computed once

A recipe is asked for scripts and trees in any order, while its node data changes in between. All
scripts are the one for the node data of the first time that a script was asked for. Trees are made
for the node data of their own time, and no script depends on whether a tree was asked for.
-/

namespace SetupRecipe.Recipe

/-! ## Calls -/

inductive Call where
  | setNode (node : NodeData)
  | insert (key : String) (value : Node.Value)
  | node
  | evaluate
  | toScript

inductive Answer where
  | done
  | replaced (previous : Option Node.Value)
  | node (node : NodeData)
  | tree (block : Block)
  | script (result : Except CompileError String)

def perform (recipe : Recipe) : Call → Answer × Recipe
  | .setNode node => (.done, recipe.setNode node)
  | .insert key value => (recipe.insertNode key value).map .replaced id
  | .node => (.node recipe.node, recipe)
  | .evaluate => recipe.evaluate.map .tree id
  | .toScript => recipe.toScript.map .script id

def performAll (recipe : Recipe) : List Call → List Answer × Recipe
  | [] => ([], recipe)
  | call :: calls =>
    let (answer, next) := recipe.perform call
    (next.performAll calls).map (List.cons answer) id

namespace Call

def asksScript : Call → Bool
  | toScript => true
  | _ => false

def asksTree : Call → Bool
  | evaluate => true
  | _ => false

/-- The node data after a call. -/
def nodeAfter (node : NodeData) : Call → NodeData
  | setNode next => next
  | insert key value => (node.insert key value).2
  | _ => node

end Call

/-- The node data after calls on a new recipe. -/
def nodeAfter (calls : List Call) : NodeData := calls.foldl Call.nodeAfter .empty

/-- The node data at the first call that asks for a script. -/
def scriptNode (calls : List Call) : NodeData :=
  nodeAfter (calls.takeWhile fun call => !call.asksScript)

lemma nodeAfter_append (calls : List Call) (call : Call) :
    nodeAfter (calls ++ [call]) = call.nodeAfter (nodeAfter calls) := by
  simp [nodeAfter]

/-- Calls after the first one for a script have no influence on the data of the script. -/
lemma scriptNode_append {calls : List Call} (h : calls.any Call.asksScript) (more : List Call) :
    scriptNode (calls ++ more) = scriptNode calls := by
  have htake : (calls ++ more).takeWhile (fun call => !call.asksScript) =
      calls.takeWhile fun call => !call.asksScript := by
    induction calls with
    | nil => exact absurd h (by simp)
    | cons call calls ih =>
      by_cases hcall : call.asksScript = true
      · simp [hcall]
      · have hrest : calls.any Call.asksScript := by simpa [hcall] using h
        simp [hcall, ih hrest]
  rw [scriptNode, htake, scriptNode]

lemma scriptNode_of_first {calls : List Call} (h : ¬ calls.any Call.asksScript)
    (more : List Call) : scriptNode (calls ++ .toScript :: more) = nodeAfter calls := by
  have hbefore : ∀ call ∈ calls, (!call.asksScript) = true := by
    simpa using h
  rw [scriptNode, List.takeWhile_append_of_pos hbefore]
  simp [Call.asksScript]

/-! ## One call -/

/-- What is known of a recipe after some calls on it. -/
structure After (block : NodeData → Block) (calls : List Call) (recipe : Recipe) : Prop where
  unchanged : recipe.block = block
  node : recipe.node = nodeAfter calls
  answer : recipe.answer =
    if calls.any Call.asksScript then some (block (scriptNode calls)).script else none
  runs : recipe.runs =
    calls.countP Call.asksTree + if calls.any Call.asksScript then 1 else 0

namespace After

variable {block : NodeData → Block} {calls : List Call} {recipe : Recipe}

lemma start (block : NodeData → Block) : After block [] (ofBlock block) := ⟨rfl, rfl, rfl, rfl⟩

/-- A call for no script leaves the script that was answered, if there was one. -/
lemma other (h : After block calls recipe) {call : Call} (hcall : call.asksScript = false)
    {next : Recipe} (hblock : next.block = recipe.block)
    (hnode : next.node = call.nodeAfter recipe.node) (hanswer : next.answer = recipe.answer)
    (hruns : next.runs = recipe.runs + if call.asksTree then 1 else 0) :
    After block (calls ++ [call]) next := by
  have hany : (calls ++ [call]).any Call.asksScript = calls.any Call.asksScript := by
    simp [hcall]
  refine ⟨hblock.trans h.unchanged, ?_, ?_, ?_⟩
  · rw [hnode, h.node, nodeAfter_append]
  · rw [hanswer, h.answer, hany]
    by_cases hasked : calls.any Call.asksScript
    · rw [if_pos hasked, if_pos hasked, scriptNode_append hasked]
    · rw [if_neg hasked, if_neg hasked]
  · rw [hruns, h.runs, hany, List.countP_append, List.countP_singleton]
    omega

lemma toScript_answer (h : After block calls recipe) (more : List Call) :
    recipe.toScript.1 = (block (scriptNode (calls ++ Call.toScript :: more))).script := by
  have hanswer := h.answer
  unfold Recipe.toScript
  by_cases hasked : calls.any Call.asksScript
  · rw [if_pos hasked] at hanswer
    rw [hanswer, scriptNode_append hasked]
  · rw [if_neg hasked] at hanswer
    rw [hanswer, scriptNode_of_first hasked, ← h.node, ← h.unchanged]
    rfl

lemma script (h : After block calls recipe) :
    After block (calls ++ [Call.toScript]) recipe.toScript.2 := by
  have hany : (calls ++ [Call.toScript]).any Call.asksScript := by simp [Call.asksScript]
  have hnode : nodeAfter (calls ++ [Call.toScript]) = nodeAfter calls := nodeAfter_append calls _
  have htrees : (calls ++ [Call.toScript]).countP Call.asksTree = calls.countP Call.asksTree := by
    simp [Call.asksTree]
  by_cases hasked : calls.any Call.asksScript
  · have hanswer := h.answer
    rw [if_pos hasked] at hanswer
    have hnext : recipe.toScript.2 = recipe := by
      simp [Recipe.toScript, hanswer]
    rw [hnext]
    refine ⟨h.unchanged, h.node.trans hnode.symm, ?_, ?_⟩
    · rw [hanswer, if_pos hany, scriptNode_append hasked]
    · rw [h.runs, htrees, if_pos hany, if_pos hasked]
  · have hanswer := h.answer
    rw [if_neg hasked] at hanswer
    have hnext : recipe.toScript.2 =
        { recipe with
          runs := recipe.runs + 1
          answer := some (recipe.block recipe.node).script } := by
      simp [Recipe.toScript, Recipe.evaluate, hanswer]
    rw [hnext]
    refine ⟨h.unchanged, h.node.trans hnode.symm, ?_, ?_⟩
    · rw [if_pos hany, scriptNode_of_first hasked, ← h.node, ← h.unchanged]
    · rw [htrees, if_pos hany]
      simp [h.runs, hasked]

lemma perform (h : After block calls recipe) (call : Call) :
    After block (calls ++ [call]) (recipe.perform call).2 := by
  cases call with
  | setNode node => exact h.other rfl rfl rfl rfl rfl
  | insert key value => exact h.other rfl rfl rfl rfl rfl
  | node => exact h.other rfl rfl rfl rfl rfl
  | evaluate => exact h.other rfl rfl rfl rfl rfl
  | toScript => exact h.script

end After

/-! ## Runs -/

lemma performAll_append (recipe : Recipe) (before after : List Call) :
    recipe.performAll (before ++ after) =
      ((recipe.performAll before).1 ++ ((recipe.performAll before).2.performAll after).1,
        ((recipe.performAll before).2.performAll after).2) := by
  induction before generalizing recipe with
  | nil => rfl
  | cons call before ih => simp [performAll, ih]

lemma length_performAll (recipe : Recipe) (calls : List Call) :
    (recipe.performAll calls).1.length = calls.length := by
  induction calls generalizing recipe with
  | nil => rfl
  | cons call calls ih => simp [performAll, ih]

lemma After.performAll {block : NodeData → Block} {before : List Call} {recipe : Recipe}
    (h : After block before recipe) (calls : List Call) :
    After block (before ++ calls) (recipe.performAll calls).2 := by
  induction calls generalizing before recipe with
  | nil => simpa [Recipe.performAll] using h
  | cons call calls ih => simpa [Recipe.performAll] using ih (h.perform call)

lemma answer_at (recipe : Recipe) (before : List Call) (call : Call) (rest : List Call) :
    (recipe.performAll (before ++ call :: rest)).1[before.length]? =
      some ((recipe.performAll before).2.perform call).1 := by
  have hlength := length_performAll recipe before
  rw [performAll_append, List.getElem?_append_right (by omega), hlength]
  simp [performAll]

/-- How often a block was evaluated has no influence on answers. -/
lemma perform_with_runs (recipe : Recipe) (runs : Nat) (call : Call) :
    ∃ later, ({ recipe with runs := runs } : Recipe).perform call =
      ((recipe.perform call).1, { (recipe.perform call).2 with runs := later }) := by
  cases call with
  | toScript =>
    cases hanswer : recipe.answer with
    | none => exact ⟨runs + 1, by simp [perform, toScript, evaluate, hanswer]⟩
    | some answer => exact ⟨runs, by simp [perform, toScript, hanswer]⟩
  | evaluate => exact ⟨runs + 1, rfl⟩
  | _ => exact ⟨runs, rfl⟩

lemma performAll_with_runs (recipe : Recipe) (runs : Nat) (calls : List Call) :
    (({ recipe with runs := runs } : Recipe).performAll calls).1 = (recipe.performAll calls).1 := by
  induction calls generalizing recipe runs with
  | nil => rfl
  | cons call calls ih =>
    obtain ⟨later, hlater⟩ := perform_with_runs recipe runs call
    simp [performAll, hlater, ih]

lemma performAll_without_tree (recipe : Recipe) (before rest : List Call) :
    (recipe.performAll (before ++ .evaluate :: rest)).1.eraseIdx before.length =
      (recipe.performAll (before ++ rest)).1 := by
  have hlength := length_performAll recipe before
  rw [performAll_append, performAll_append, List.eraseIdx_append_of_length_le (by omega), hlength,
    Nat.sub_self]
  congr 1
  -- a tree leaves nothing behind but the count
  exact performAll_with_runs (recipe.performAll before).2 _ rest

/-- However a recipe is asked, all scripts are that of the block for the node data of the first call
for a script, and trees are for the node data of their own call. Leaving out a call for a tree leaves
all other answers. The block is evaluated for every tree, and once for all scripts together. -/
theorem performAll_memoised (block : NodeData → Block) (calls : List Call) :
    let answers := ((ofBlock block).performAll calls).1
    (∀ before rest, calls = before ++ .toScript :: rest →
      answers[before.length]? = some (.script (block (scriptNode calls)).script)) ∧
    (∀ before rest, calls = before ++ .evaluate :: rest →
      answers[before.length]? = some (.tree (block (nodeAfter before))) ∧
      answers.eraseIdx before.length = ((ofBlock block).performAll (before ++ rest)).1) ∧
    (∀ before rest, calls = before ++ .node :: rest →
      answers[before.length]? = some (.node (nodeAfter before))) ∧
    ((ofBlock block).performAll calls).2.runs =
      calls.countP Call.asksTree + (if calls.any Call.asksScript then 1 else 0) ∧
    (∀ before rest, calls = before ++ .toScript :: rest → scriptNode calls = .empty →
      answers[before.length]? = some (.script (compile block))) ∧
    ∀ (store : Document.Store) before rest, calls = before ++ .toScript :: rest →
      (store.toRecipe.performAll calls).1[before.length]? =
        some (.script (store.declare (.recipe (scriptNode calls))).toBlock.script) := by
  have hafter : ∀ (block : NodeData → Block) (before : List Call),
      After block before ((ofBlock block).performAll before).2 :=
    fun block before => (After.start block).performAll before
  have hscript : ∀ (block : NodeData → Block) before rest, calls = before ++ .toScript :: rest →
      ((ofBlock block).performAll calls).1[before.length]? =
        some (.script (block (scriptNode calls)).script) := by
    rintro block before rest rfl
    rw [answer_at, ← (hafter block before).toScript_answer rest]
    rfl
  intro answers
  refine ⟨hscript block, ?_, ?_, (hafter block calls).runs, ?_, ?_⟩
  · rintro before rest rfl
    have htree : ((ofBlock block).performAll before).2.evaluate.1 = block (nodeAfter before) := by
      rw [evaluate, (hafter block before).unchanged, (hafter block before).node]
    refine ⟨?_, performAll_without_tree (ofBlock block) before rest⟩
    rw [answer_at, ← htree]
    rfl
  · rintro before rest rfl
    rw [answer_at, ← (hafter block before).node]
    rfl
  · intro before rest hcalls hempty
    rw [hscript block before rest hcalls, hempty]
    rfl
  · exact fun store => hscript store.evaluate

def listing (node : NodeData) : Block :=
  { owner := none, helpers := []
    children := [.command ("ls " ++ (node.text? "dir").getD "")], problem := none }

/-- Neither other node data nor a tree in between has an influence on the second script. -/
theorem performAll_memoised_listing :
    let calls : List Call :=
      [.insert "dir" (.text "/home"), .toScript, .setNode .empty, .evaluate, .toScript]
    let run := (ofBlock listing).performAll calls
    run.1[1]? = some (.script (.ok "ls /home\n")) ∧
      run.1[3]? = some (.tree (listing .empty)) ∧
      run.1[4]? = some (.script (.ok "ls /home\n")) ∧ run.2.runs = 2 := by
  intro calls run
  have hdirectory : (scriptNode calls).text? "dir" = some "/home" := rfl
  have hscript : (listing (scriptNode calls)).script = .ok "ls /home\n" := by
    rw [listing, hdirectory, Option.getD_some]
    rfl
  obtain ⟨hscripts, htrees, -, hruns, -⟩ := performAll_memoised listing calls
  rw [hscript] at hscripts
  refine ⟨hscripts (calls.take 1) (calls.drop 2) rfl, (htrees (calls.take 3) (calls.drop 4) rfl).1,
    hscripts (calls.take 4) [] rfl, hruns⟩

end SetupRecipe.Recipe
