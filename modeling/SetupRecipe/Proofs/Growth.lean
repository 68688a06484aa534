import SetupRecipe.Program.Run
import SetupRecipe.Proofs.Trees

/-!
# Growing scripts

A statement only adds to the block that it runs on: what was declared before stays in front of what is
new, and the first problem of the block is kept. Because of that the script of a program is the
beginning of the script of every longer program, and a program that has no script gets none by going
on.
-/

namespace SetupRecipe.Program

/-! ## Drafts -/

/-- A draft that became another one because something was added to it. -/
structure Draft.Grown (draft next : Draft) : Prop where
  children : draft.children <+: next.children
  problem : ∀ error, draft.problem = some error → next.problem = some error

namespace Draft.Grown

variable {draft : Draft}

lemma refl (draft : Draft) : draft.Grown draft := ⟨List.prefix_rfl, fun _ h => h⟩

lemma trans {a b c : Draft} (hab : a.Grown b) (hbc : b.Grown c) : a.Grown c where
  children := hab.children.trans hbc.children
  problem := fun error h => hbc.problem error (hab.problem error h)

lemma push (draft : Draft) (child : Child) : draft.Grown (draft.push child) where
  children := List.prefix_append _ _
  problem := fun _ h => h

lemma defer (draft : Draft) (error : CompileError) : draft.Grown (draft.defer error) where
  children := List.prefix_rfl
  problem := by
    intro first h
    change draft.problem.or (some error) = some first
    rw [h, Option.some_or]

lemma command (draft : Draft) (text : String) : draft.Grown (draft.command text) := by
  unfold Draft.command
  split
  · exact push draft _
  · exact refl draft

lemma set (draft : Draft) (setting : Attribute String) : draft.Grown (draft.set setting) :=
  ⟨List.prefix_rfl, fun _ h => h⟩

lemma closeBlock (draft inner : Draft) : draft.Grown (draft.closeBlock inner) := by
  unfold Draft.closeBlock
  split
  · exact push draft _
  · exact refl draft

end Draft.Grown

/-! ## Runs -/

/-- Calls that only add to the block that they are made on. -/
def Call.Grows (call : Call) : Prop :=
  ∀ body given draft next, call body given draft = some next → draft.Grown next

section

variable {call : Call}

mutual

lemma Statement.run_grown (hcall : call.Grows) (argument : String) (statement : Statement)
    {draft next : Draft} (h : statement.run call argument draft = some next) : draft.Grown next := by
  cases statement with
  | echo message =>
    obtain rfl := Option.some.inj h
    exact .push draft _
  | haltOnFailedCommand =>
    obtain rfl := Option.some.inj h
    exact .push draft _
  | logTo path =>
    obtain rfl := Option.some.inj h
    exact .closeBlock draft _
  | block kind label body =>
    -- The inner run decides what is added, but not what it is added to.
    obtain ⟨inner, -, rfl⟩ := Option.map_eq_some_iff.mp h
    exact .closeBlock draft inner
  | command text =>
    obtain rfl := Option.some.inj h
    exact .command draft _
  | set setting =>
    obtain rfl := Option.some.inj h
    exact .set draft _
  | define target name body =>
    obtain rfl := Option.some.inj h
    exact ⟨List.prefix_rfl, fun _ h => h⟩
  | call name text =>
    rw [Statement.run] at h
    cases hhelper : draft.helper? name with
    | some body =>
      rw [hhelper] at h
      exact hcall body _ draft next h
    | none =>
      rw [hhelper] at h
      obtain rfl := Option.some.inj h
      exact .defer draft _

lemma runAll_grown (hcall : call.Grows) (argument : String) (statements : List Statement)
    {draft next : Draft} (h : runAll call argument statements draft = some next) : draft.Grown next := by
  cases statements with
  | nil =>
    obtain rfl := Option.some.inj h
    exact .refl draft
  | cons statement statements =>
    obtain ⟨middle, hstep, hrest⟩ := runAll_cons_eq_some_iff.mp h
    exact (statement.run_grown hcall argument hstep).trans (runAll_grown hcall argument statements hrest)

end

end

lemma callWithin_grows (depth : Nat) : (callWithin depth).Grows := by
  induction depth with
  | zero => exact fun _ _ _ _ h => nomatch h
  | succ depth ih => exact fun body given _ _ h => runAll_grown ih given body h

lemma runAll_append (call : Call) (argument : String) (first second : List Statement)
    (draft : Draft) :
    runAll call argument (first ++ second) draft =
      (runAll call argument first draft).bind (runAll call argument second) := by
  induction first generalizing draft with
  | nil => rfl
  | cons statement first ih =>
    rw [List.cons_append, runAll, runAll]
    cases statement.run call argument draft with
    | none => rfl
    | some next => exact ih next

end SetupRecipe.Program

namespace SetupRecipe
open Shell (Fragment)

/-! ## Scripts -/

lemma childFragments_append (first second : List Child) :
    childFragments (first ++ second) = do
      let fragments ← childFragments first
      let more ← childFragments second
      return fragments ++ more := by
  induction first with
  | nil =>
    rw [List.nil_append]
    cases childFragments second <;> rfl
  | cons child first ih =>
    rw [List.cons_append, childFragments, childFragments, ih]
    cases child.render with
    | error error => rfl
    | ok fragment =>
      cases childFragments first with
      | error error => rfl
      | ok fragments =>
        cases childFragments second with
        | error error => rfl
        | ok more =>
          by_cases hempty : fragment.isEmpty
          · simp [hempty, bind, Except.bind, pure, Except.pure]
          · simp [hempty, bind, Except.bind, pure, Except.pure]

/-- A text whose last line is ended. -/
def EndsLine (text : String) : Prop := text.toList.getLast? = some '\n'

/-- A script that goes on where another one ends: it is the same, or the first of its lines are, or a
blank line stands between that script and more lines. -/
inductive Continues (script longer : String) : Prop where
  | same (h : longer = script)
  | start (empty : script = "") (lines : EndsLine longer)
  | more (rest : String) (before : EndsLine script) (lines : EndsLine rest)
    (h : longer = script ++ "\n" ++ rest)

namespace Block

lemma endsLine_joinScript {fragments : List Fragment} (h : fragments ≠ []) :
    EndsLine (joinScript fragments) := by
  unfold joinScript EndsLine
  induction fragments with
  | nil => exact absurd rfl h
  | cons fragment fragments ih =>
    cases fragments with
    | nil => simp
    | cons next fragments =>
      have hnext := ih (List.cons_ne_nil next fragments)
      rw [List.map_cons] at hnext ⊢
      rw [List.map_cons, String.intercalate_cons_cons, String.toList_append,
        List.getLast?_append, hnext, Option.some_or]

lemma joinScript_append {first second : List Fragment} (hfirst : first ≠ [])
    (hsecond : second ≠ []) :
    joinScript (first ++ second) = joinScript first ++ "\n" ++ joinScript second := by
  unfold joinScript
  induction first with
  | nil => exact absurd rfl hfirst
  | cons fragment first ih =>
    cases first with
    | nil =>
      obtain ⟨next, second, rfl⟩ := List.exists_cons_of_ne_nil hsecond
      simp [String.intercalate_cons_cons]
    | cons next first =>
      have hrest := ih (List.cons_ne_nil next first)
      rw [List.cons_append, List.map_cons, List.map_cons] at hrest
      rw [List.cons_append, List.cons_append, List.map_cons, List.map_cons,
        String.intercalate_cons_cons, hrest, List.map_cons, List.map_cons,
        String.intercalate_cons_cons]
      simp only [String.append_assoc]

lemma joinScript_continues (first second : List Fragment) :
    Continues (joinScript first) (joinScript (first ++ second)) := by
  by_cases hsecond : second = []
  · rw [hsecond, List.append_nil]
    exact .same rfl
  · by_cases hfirst : first = []
    · rw [hfirst, List.nil_append]
      exact .start rfl (endsLine_joinScript hsecond)
    · exact .more _ (endsLine_joinScript hfirst) (endsLine_joinScript hsecond)
        (joinScript_append hfirst hsecond)

lemma fragments_of_problem {block : Block} {error : CompileError} (h : block.problem = some error) :
    block.fragments = .error error := by
  obtain ⟨owner, helpers, children, problem⟩ := block
  obtain rfl : problem = some error := h
  rfl

lemma script_of_problem {block : Block} {error : CompileError} (h : block.problem = some error) :
    block.script = .error error := by
  rw [script, fragments_of_problem h]
  rfl

end Block

namespace Program

/-- What renders after more was added rendered before, and its fragments still come first. -/
lemma Draft.Grown.fragments {draft next : Draft} (h : draft.Grown next) {fragments : List Fragment}
    (hnext : next.toBlock.fragments = .ok fragments) :
    ∃ before more, draft.toBlock.fragments = .ok before ∧ fragments = before ++ more := by
  obtain ⟨added, hadded⟩ := h.children
  cases hproblem : next.problem with
  | some error =>
    have hfails : next.toBlock.fragments = .error error := Block.fragments_of_problem hproblem
    rw [hfails] at hnext
    exact nomatch hnext
  | none =>
    have hnone : draft.problem = none := by
      cases hdraft : draft.problem with
      | none => rfl
      | some error => exact absurd (h.problem error hdraft) (by simp [hproblem])
    rw [Draft.toBlock, hproblem, ← hadded] at hnext
    change childFragments (draft.children ++ added) = .ok fragments at hnext
    rw [childFragments_append] at hnext
    obtain ⟨before, hbefore, hnext⟩ := ok_of_bind_eq_ok hnext
    obtain ⟨more, hmore, hnext⟩ := ok_of_bind_eq_ok hnext
    refine ⟨before, more, ?_, (Except.ok.inj hnext).symm⟩
    rw [Draft.toBlock, hnone]
    exact hbefore

/-- The script of a program goes on where the script of a beginning of the program ends. A beginning
that has no script leaves the program without one, for the same reason if the reason is a problem of
the recipe's own block. -/
theorem script_append {depth : Nat} {program more : Program} {node : NodeData} {longer : Block}
    (h : evaluate depth (program ++ more) node = some longer) :
    ∃ block, evaluate depth program node = some block ∧
      (∀ script', longer.script = .ok script' →
        ∃ script, block.script = .ok script ∧ Continues script script') ∧
      (∀ error, block.script = .error error → ∃ error', longer.script = .error error') ∧
      ∀ error, block.problem = some error →
        block.script = .error error ∧ longer.script = .error error := by
  obtain ⟨final, hrun, rfl⟩ := Option.map_eq_some_iff.mp h
  rw [run, runAll_append, Option.bind_eq_some_iff] at hrun
  obtain ⟨draft, hprogram, hmore⟩ := hrun
  have hgrown : draft.Grown final := runAll_grown (callWithin_grows depth) "" more hmore
  have hscript : ∀ script', final.toBlock.script = .ok script' →
      ∃ script, draft.toBlock.script = .ok script ∧ Continues script script' := by
    intro script' hfinal
    obtain ⟨fragments, hfragments, rfl⟩ := ok_of_map_eq_ok hfinal
    obtain ⟨before, added, hbefore, rfl⟩ := hgrown.fragments hfragments
    refine ⟨Block.joinScript before, ?_, Block.joinScript_continues before added⟩
    rw [Block.script, hbefore]
    rfl
  refine ⟨draft.toBlock, Option.map_eq_some_iff.mpr ⟨draft, hprogram, rfl⟩, hscript, ?_, ?_⟩
  · intro error herror
    cases hfinal : final.toBlock.script with
    | error error' => exact ⟨error', rfl⟩
    | ok script' =>
      obtain ⟨script, hok, -⟩ := hscript script' hfinal
      rw [herror] at hok
      exact nomatch hok
  · intro error hproblem
    exact ⟨Block.script_of_problem hproblem, Block.script_of_problem (hgrown.problem error hproblem)⟩

/-- A helper that declares two messages. -/
def announcements : Program :=
  [.define .recipe "announce" [.echo (.text "now"), .echo .argument], .echo (.text "first")]

theorem script_append_announcements :
    ∃ block longer,
      evaluate 1 (announcements ++ [.call "announce" (.text "then")]) .empty = some longer ∧
      evaluate 1 announcements .empty = some block ∧
      longer.script = .ok "echo 'first'\n\necho 'now'\n\necho 'then'\n" ∧
      ∃ script, block.script = .ok script ∧
        Continues script "echo 'first'\n\necho 'now'\n\necho 'then'\n" := by
  have hlonger : evaluate 1 (announcements ++ [.call "announce" (.text "then")]) .empty =
      some _ := rfl
  obtain ⟨block, hblock, hscript, -, -⟩ := script_append hlonger
  exact ⟨block, _, hlonger, hblock, rfl, hscript _ rfl⟩

end Program

end SetupRecipe
