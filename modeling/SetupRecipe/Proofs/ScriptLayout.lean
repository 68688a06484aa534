import SetupRecipe.Proofs.LineContents
import SetupRecipe.Proofs.OrderedTrees
import SetupRecipe.Proofs.VisibleCode

/-!
# The layout of scripts

The script of a recipe is empty if the recipe has nothing but execute blocks with empty commands. Every
other script is made of the texts of the resources that have any, in their order, with a blank line
between two of them and one newline at the end. No resource brings a newline at its end.
-/

namespace SetupRecipe

open Shell (Fragment Line)

namespace Shell

/-- A line with a character at its end that is no newline. -/
def Line.Ended (line : Line) : Prop := ∃ init c, line.text.toList = init ++ [c] ∧ c ≠ '\n'

namespace Fragment

/-- A fragment that does not end in a newline or in an empty line. -/
def Ended (fragment : Fragment) : Prop := ∀ line, fragment.lines.getLast? = some line → line.Ended

namespace Ended

variable {a b : Fragment}

lemma empty : Fragment.empty.Ended := fun _ h => nomatch h

lemma append (ha : a.Ended) (hb : b.Ended) : (a ++ b).Ended := by
  intro line hline
  rw [lines_append, List.getLast?_append, Option.or_eq_some_iff] at hline
  rcases hline with hline | ⟨-, hline⟩
  · exact hb line hline
  · exact ha line hline

lemma ofCode (text : String) : (Fragment.ofCode text).Ended := by
  intro line hline
  rw [Fragment.ofCode, List.getLast?_map, Option.map_eq_some_iff] at hline
  obtain ⟨chars, hchars, rfl⟩ := hline
  obtain ⟨init, c, rfl, hc⟩ := Text.getLast?_codeLines hchars
  exact ⟨init, c, String.toList_ofList, hc⟩

lemma echo (message : String) : (Fragment.ofLine ("echo " ++ singleQuote message)).Ended := by
  intro line hline
  obtain rfl := Option.some.inj hline
  refine ⟨"echo ".toList ++ '\x27' :: message.toList.flatMap quoteChar, '\x27', ?_, by decide⟩
  simp [Line.text, singleQuote]

/-- A guard ends in its last word, whatever it guards. -/
lemma guarded (test : String) (body : Fragment) : (Fragment.guarded test body).Ended := by
  intro line hline
  have hfi : Fragment.ofCode "fi" = Fragment.ofLine "fi" := by decide
  rw [Fragment.guarded, hfi, lines_append, Fragment.ofLine, List.getLast?_concat] at hline
  obtain rfl := Option.some.inj hline
  exact ⟨['f'], 'i', by decide, by decide⟩

lemma concat {fragments : List Fragment} (h : ∀ fragment ∈ fragments, fragment.Ended) :
    (Fragment.concat fragments).Ended := by
  induction fragments with
  | nil => exact empty
  | cons fragment fragments ih =>
    rw [List.forall_mem_cons] at h
    exact h.1.append (ih h.2)

/-- The text of a fragment ends as its last line does. -/
lemma text (h : a.Ended) (hlines : a.lines ≠ []) :
    ∃ init c, a.text.toList = init ++ [c] ∧ c ≠ '\n' := by
  obtain ⟨front, last, hlast⟩ := List.eq_nil_or_concat' a.lines |>.resolve_left hlines
  obtain ⟨init, c, hchars, hc⟩ := h last (by rw [hlast, List.getLast?_concat])
  refine ⟨Text.endLines ((front.map Line.text).map String.toList) ++ init, c, ?_, hc⟩
  rw [Fragment.text, hlast, List.map_append, List.map_singleton, Text.toList_intercalate_concat, hchars,
    List.append_assoc]

end Ended

end Fragment

end Shell

/-! ## Resources -/

section Resources

variable {origin : Origin} {declares : Bool} {body fragment : Fragment}

lemma changeMode_ended {path : String} {mode : Option UInt32}
    (h : changeMode origin path mode = .ok fragment) : fragment.Ended := by
  cases mode with
  | none =>
    obtain rfl := Except.ok.inj h
    exact .empty
  | some mode =>
    cases hdigits : Shell.octalMode? mode with
    | none => simp [changeMode, hdigits] at h
    | some digits =>
      simp only [changeMode, hdigits, Except.ok.injEq] at h
      rw [← h]
      exact .ofCode _

lemma ExecuteSettings.wrap_ended (s : ExecuteSettings) (hbody : body.Ended) : (s.wrap body).Ended := by
  unfold wrap
  cases s.guard? with
  | some test => exact .guarded test _
  | none =>
    have hdirectory : s.changeDirectory.Ended := by
      unfold changeDirectory
      cases s.cwd with
      | none => exact .empty
      | some path => exact .ofCode _
    exact hdirectory.append hbody

lemma Settings.render_ended {settings : Settings} (hbody : body.Ended)
    (h : settings.render origin declares (.ok body) = .ok fragment) : fragment.Ended := by
  cases settings with
  | execute s =>
    obtain rfl := Except.ok.inj ((s.render_ok body).symm.trans h)
    exact s.wrap_ended hbody
  | file s =>
    obtain ⟨content, before, write, mode, -, -, -, -, rfl⟩ := s.render_eq_ok h
    exact .guarded _ _
  | directory s =>
    obtain ⟨before, mode, hbefore, hmode, rfl⟩ := s.render_eq_ok h
    obtain rfl := Except.ok.inj hbefore
    exact (hbody.append (.ofCode _)).append (changeMode_ended hmode)
  | log s =>
    obtain ⟨redirection, before, -, hbefore, rfl⟩ := s.render_eq_ok h
    obtain rfl := Except.ok.inj hbefore
    exact hbody.append (.ofCode _)
  | gemfile s =>
    obtain ⟨before, write, -, -, rfl⟩ := s.render_eq_ok h
    exact .guarded _ _

end Resources

lemma forall_ended {children : List Child} {all : List Fragment}
    (hall : List.Forall₂ (fun child fragment => child.render = .ok fragment) children all)
    (h : ∀ child ∈ children, ∀ fragment, child.render = .ok fragment → fragment.Ended) :
    ∀ fragment ∈ all, fragment.Ended := by
  induction hall with
  | nil => simp
  | @cons child fragment children all hfragment hall ih =>
    rw [List.forall_mem_cons] at h
    exact List.forall_mem_cons.mpr ⟨h.1 fragment hfragment, ih h.2⟩

/-- Whatever was declared, its text ends in a character that is no newline. -/
lemma Child.render_ended (child : Child) {fragment : Fragment} (h : child.render = .ok fragment) :
    fragment.Ended := by
  induction child using Child.induction generalizing fragment with
  | command text =>
    obtain rfl := Except.ok.inj h
    exact .ofCode text
  | echo origin message =>
    obtain rfl := Except.ok.inj h
    exact .echo message
  | haltOnFailedCommand origin =>
    obtain rfl := Except.ok.inj h
    exact .ofCode "set -e"
  | block origin settings body ih =>
    obtain ⟨fragments, hfragments, h⟩ := render_block_eq_ok h
    obtain ⟨all, hall, rfl⟩ := Block.fragments_eq_ok hfragments
    have hended := forall_ended hall fun child hchild _ => ih child hchild
    have hbody : (Fragment.concat (all.filter (!·.isEmpty))).Ended :=
      .concat fun fragment hmem => hended fragment (List.mem_of_mem_filter hmem)
    exact Settings.render_ended hbody h

/-! ## Scripts -/

lemma Block.joinScript_eq {fragments : List Fragment} (h : fragments ≠ []) :
    joinScript fragments = String.intercalate "\n\n" (fragments.map Fragment.text) ++ "\n" := by
  unfold joinScript
  induction fragments with
  | nil => exact absurd rfl h
  | cons fragment fragments ih =>
    cases fragments with
    | nil => simp
    | cons next fragments =>
      have hrest := ih (List.cons_ne_nil next fragments)
      rw [List.map_cons, List.map_cons] at hrest
      rw [List.map_cons, List.map_cons, List.map_cons, List.map_cons, String.intercalate_cons_cons,
        String.intercalate_cons_cons, hrest]
      have hbreak : "\n\n" = "\n" ++ "\n" := by decide
      simp only [hbreak, String.append_assoc]

/-- A script ends as its last fragment does, with a newline behind it. -/
lemma Block.joinScript_ended {fragments : List Fragment} (hne : fragments ≠ [])
    (h : ∀ fragment ∈ fragments, fragment.Ended ∧ fragment.lines ≠ []) :
    ∃ init c, (joinScript fragments).toList = init ++ [c, '\n'] ∧ c ≠ '\n' := by
  obtain ⟨front, last, rfl⟩ := List.eq_nil_or_concat' fragments |>.resolve_left hne
  obtain ⟨hended, hlines⟩ := h last (List.mem_append_right front List.mem_cons_self)
  obtain ⟨init, c, htext, hc⟩ := hended.text hlines
  have hlast : (joinScript [last]).toList = init ++ [c, '\n'] := by
    simp [joinScript, htext]
  by_cases hfront : front = []
  · rw [hfront, List.nil_append]
    exact ⟨init, c, hlast, hc⟩
  · refine ⟨(joinScript front ++ "\n").toList ++ init, c, ?_, hc⟩
    rw [joinScript_append hfront (List.cons_ne_nil last []), String.toList_append, hlast,
      List.append_assoc]

lemma Block.joinScript_eq_empty_iff {fragments : List Fragment} :
    joinScript fragments = "" ↔ fragments = [] := by
  constructor
  · intro h
    by_contra hne
    have hends := endsLine_joinScript hne
    rw [h] at hends
    exact nomatch hends
  · rintro rfl
    rfl

namespace Program

open Moment

/-- A recipe has no commands of its own. -/
lemma evaluate_resources {depth : Nat} {program : Program} {node : NodeData} {block : Block}
    (h : evaluate depth program node = some block) : ∀ text, .command text ∉ block.children := by
  obtain ⟨final, hrun, rfl⟩ := Option.map_eq_some_iff.mp h
  obtain ⟨time, hend⟩ := (exists_run_iff_endsIn program node final).mp ⟨depth, hrun⟩
  have hsound : Moment.Sound ⟨final, [], []⟩ :=
    after_induction hend (.start program node) fun _ _ hmoment hstep => hstep.sound hmoment
  have hroot : final.owner = none := hsound.opened
  intro text htext
  obtain ⟨origin, howner, -⟩ := hsound.block.own.commands text htext
  exact nomatch hroot.symm.trans howner

end Program

/-- A resource that renders to no lines is an execute block without attributes. -/
lemma Child.onlyCommands_resource_iff {child : Child} (h : ∀ text, child ≠ .command text)
    (test : String → Bool) :
    child.onlyCommands test ↔ ∃ origin body, child = .block origin (.execute ⟨none, none, none⟩) body ∧
      body.onlyCommands test := by
  cases child with
  | command text => exact absurd rfl (h text)
  | echo origin message => simp [onlyCommands]
  | haltOnFailedCommand origin => simp [onlyCommands]
  | block origin settings body => simp [onlyCommands]

/-- A script is empty exactly if all resources of the recipe are execute blocks without attributes and
with nothing inside but empty commands and such blocks. Every other script consists of the texts of the
resources that render to any lines. -/
theorem Program.script_layout {depth : Nat} {program : Program} {node : NodeData} {block : Block}
    {script : String} (h : evaluate depth program node = some block)
    (hscript : block.script = .ok script) :
    (script = "" ↔ ∀ child ∈ block.children, ∃ origin body,
      child = .block origin (.execute ⟨none, none, none⟩) body ∧ body.onlyCommands Text.isNewlines) ∧
    ∃ fragments : List Fragment,
      List.Forall₂ (fun child fragment => child.render = .ok fragment) block.children fragments ∧
      (∀ fragment ∈ fragments, fragment.lines ≠ [] →
        ∃ init c, fragment.text.toList = init ++ [c] ∧ c ≠ '\n') ∧
      (script ≠ "" →
        script = String.intercalate "\n\n"
            ((fragments.filter (·.lines ≠ [])).map Fragment.text) ++ "\n" ∧
          ∃ init c, script.toList = init ++ [c, '\n'] ∧ c ≠ '\n') := by
  obtain ⟨fragments, hfragments, rfl⟩ := ok_of_map_eq_ok hscript
  obtain ⟨all, hall, rfl⟩ := Block.fragments_eq_ok hfragments
  have hended := forall_ended hall fun child _ _ => child.render_ended
  have hfilter : all.filter (!·.isEmpty) = all.filter (·.lines ≠ []) := by
    congr
    funext fragment
    rw [Bool.eq_iff_iff]
    simp [Fragment.isEmpty]
  have hlines : ∀ fragment ∈ all.filter (!·.isEmpty), fragment.lines ≠ [] := by
    rw [hfilter]
    exact fun fragment hmem => of_decide_eq_true (List.mem_filter.mp hmem).2
  have hempty : (∀ child ∈ block.children, child.onlyCommands Text.isNewlines) ↔
      all.filter (!·.isEmpty) = [] := by
    rw [← Block.onlyCommands_iff_children, Block.onlyNewlines_iff hfragments,
      Fragment.lines_concat_eq_nil_iff hlines]
  refine ⟨?_, all, hall, fun fragment hmem => (hended fragment hmem).text, ?_⟩
  · rw [Block.joinScript_eq_empty_iff, ← hempty]
    apply forall₂_congr
    intro child hchild
    have hresource : ∀ text, child ≠ .command text := by
      rintro text rfl
      exact evaluate_resources h text hchild
    exact Child.onlyCommands_resource_iff hresource Text.isNewlines
  · intro hne
    rw [ne_eq, Block.joinScript_eq_empty_iff] at hne
    refine ⟨by rw [Block.joinScript_eq hne, hfilter], Block.joinScript_ended hne ?_⟩
    exact fun fragment hmem =>
      ⟨hended fragment (List.mem_of_mem_filter hmem), hlines fragment hmem⟩

/-- A recipe with two steps, and between them a block in which nothing happens. -/
def Program.quietSteps : Program :=
  [.echo (.text "one"),
    .block .execute (.text "nothing") [.command (.text "\n"), .block .execute (.text "") []],
    .block .execute (.text "list") [.command (.text "ls\n\n")]]

theorem Program.script_layout_quietSteps :
    ∃ block, evaluate 0 quietSteps .empty = some block ∧
      block.script = .ok "echo 'one'\n\nls\n" ∧
      (¬ ∀ child ∈ block.children, ∃ origin body,
        child = .block origin (.execute ⟨none, none, none⟩) body ∧
          body.onlyCommands Text.isNewlines) ∧
      ∃ fragments : List Fragment,
        List.Forall₂ (fun child fragment => child.render = .ok fragment) block.children fragments ∧
        "echo 'one'\n\nls\n" = String.intercalate "\n\n"
          ((fragments.filter (·.lines ≠ [])).map Fragment.text) ++ "\n" := by
  obtain ⟨block, hblock, hscript⟩ : ∃ block, evaluate 0 quietSteps .empty = some block ∧
      block.script = .ok "echo 'one'\n\nls\n" := ⟨_, rfl, rfl⟩
  have hne : "echo 'one'\n\nls\n" ≠ "" := by decide
  obtain ⟨hempty, fragments, hfragments, -, hlayout⟩ := script_layout hblock hscript
  exact ⟨block, hblock, hscript, fun hall => hne (hempty.mpr hall), fragments, hfragments,
    (hlayout hne).1⟩

end SetupRecipe
