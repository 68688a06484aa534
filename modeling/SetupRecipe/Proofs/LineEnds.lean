import SetupRecipe.Proofs.CodeLines
import SetupRecipe.Proofs.Growth
import SetupRecipe.Proofs.Labels

/-!
# Line ends of commands

A command can be spelled with a carriage return before every newline. Its lines are the same as long as
the command does not end in a newline, so that programs with such commands have the same script. Of a
command that ends in a newline, one return too many is left: trailing newlines are trimmed before the
code is cut into lines, and the return before the first trimmed one belongs to no line end any more.
-/

namespace SetupRecipe

namespace Text

/-! ## Texts with returns -/

/-- A text with a carriage return before every newline. -/
def withReturns (text : List Char) : List Char :=
  text.flatMap fun c => if c = '\n' then ['\r', '\n'] else [c]

lemma withReturns_append (a b : List Char) :
    withReturns (a ++ b) = withReturns a ++ withReturns b := List.flatMap_append

lemma withReturns_of_not_mem {line : List Char} (h : '\n' ∉ line) : withReturns line = line := by
  induction line with
  | nil => rfl
  | cons c line ih =>
    rw [List.mem_cons, not_or] at h
    have hrest : withReturns line = line := ih h.2
    have hc : withReturns [c] = [c] := by simp [withReturns, Ne.symm h.1]
    rw [← List.singleton_append, withReturns_append, hc, hrest]

lemma dropFinalReturn_concat (line : List Char) : dropFinalReturn (line ++ ['\r']) = line := by
  simp [dropFinalReturn]

lemma dropFinalReturn_of_not_mem {line : List Char} (h : '\r' ∉ line) :
    dropFinalReturn line = line := by
  unfold dropFinalReturn
  rw [if_neg fun hlast => h (List.mem_of_getLast? hlast)]

lemma dropReturns_concat (init : List (List Char)) (last : List Char) :
    dropReturns (init ++ [last]) = init.map dropFinalReturn ++ [last] := by
  induction init with
  | nil => rfl
  | cons line init ih =>
    obtain ⟨next, more, hmore⟩ := List.exists_cons_of_ne_nil (List.concat_ne_nil last init)
    rw [List.cons_append, hmore, dropReturns_cons_cons, ← hmore, ih, List.map_cons, List.cons_append]

lemma exists_splitLines_concat {c : Char} (hc : c ≠ '\n') (text : List Char) :
    ∃ init last, splitLines text = init ++ [last] ∧
      splitLines (text ++ [c]) = init ++ [last ++ [c]] := by
  induction text with
  | nil => exact ⟨[], [], rfl, by simp [splitLines, hc]⟩
  | cons first text ih =>
    obtain ⟨init, last, htext, hconcat⟩ := ih
    rw [List.cons_append]
    by_cases hfirst : first = '\n'
    · refine ⟨[] :: init, last, ?_, ?_⟩
      · rw [splitLines, if_pos hfirst, htext, List.cons_append]
      · rw [splitLines, if_pos hfirst, hconcat, List.cons_append]
    · rw [splitLines_cons_of_ne hfirst, splitLines_cons_of_ne hfirst, htext, hconcat]
      cases init with
      | nil => exact ⟨[], first :: last, rfl, rfl⟩
      | cons line init => exact ⟨(first :: line) :: init, last, rfl, rfl⟩

/-- The returns before newlines are those that cutting into lines drops. -/
lemma dropReturns_splitLines_withReturns (text : List Char) :
    dropReturns (splitLines (withReturns text)) = splitLines text := by
  have hlines : ∀ lines : List (List Char), lines ≠ [] → (∀ line ∈ lines, '\n' ∉ line) →
      dropReturns (splitLines (withReturns (joinLines lines))) = lines := by
    intro lines hne hclean
    induction lines with
    | nil => exact absurd rfl hne
    | cons line lines ih =>
      rw [List.forall_mem_cons] at hclean
      cases lines with
      | nil =>
        rw [joinLines, withReturns_of_not_mem hclean.1, splitLines_of_not_mem hclean.1]
        rfl
      | cons next lines =>
        have hrest := ih (List.cons_ne_nil next lines) hclean.2
        have hjoined : joinLines (line :: next :: lines) =
            line ++ ['\n'] ++ joinLines (next :: lines) := by simp [joinLines]
        have hend : withReturns ['\n'] = ['\r', '\n'] := rfl
        have htext : withReturns (joinLines (line :: next :: lines)) =
            (line ++ ['\r']) ++ '\n' :: withReturns (joinLines (next :: lines)) := by
          rw [hjoined, withReturns_append, withReturns_append, withReturns_of_not_mem hclean.1, hend]
          simp
        have hline : '\n' ∉ line ++ ['\r'] := by simpa using hclean.1
        rw [htext, splitLines_append_newline, splitLines_of_not_mem hline, List.singleton_append]
        cases hs : splitLines (withReturns (joinLines (next :: lines))) with
        | nil => exact absurd hs (splitLines_ne_nil _)
        | cons first more =>
          rw [dropReturns_cons_cons, dropFinalReturn_concat, ← hs, hrest]
  have hsplit := hlines (splitLines text) (splitLines_ne_nil text) fun line hline =>
    newline_not_mem_of_mem_splitLines hline
  rwa [joinLines_splitLines] at hsplit

/-! ## Lines of code with returns -/

section

variable {text : List Char}

lemma codeLines_append_newline (text : List Char) :
    codeLines (text ++ ['\n']) = codeLines text := by
  have htrim : trimNewlines (text ++ ['\n']) = trimNewlines text := by
    rw [trimNewlines_eq_rdropWhile, trimNewlines_eq_rdropWhile]
    exact List.rdropWhile_concat_pos _ _ _ rfl
  rw [codeLines, htrim, codeLines]

lemma codeLines_concat_of_no_returns (hreturn : '\r' ∉ text) {c : Char} (hc : c ≠ '\n') :
    codeLines (text ++ [c]) = splitLines (text ++ [c]) := by
  obtain ⟨init, last, htext, hconcat⟩ := exists_splitLines_concat hc text
  have hinit : init.map dropFinalReturn = init.map id := by
    apply List.map_congr_left
    intro line hline
    apply dropFinalReturn_of_not_mem
    intro hmem
    have hlines : ∃ line ∈ splitLines text, '\r' ∈ line :=
      ⟨line, htext ▸ List.mem_append_left _ hline, hmem⟩
    exact hreturn ((mem_splitLines_iff (by decide)).mp hlines)
  rw [codeLines_concat hc, hconcat, dropReturns_concat, hinit, List.map_id]

lemma codeLines_withReturns_concat {c : Char} (hc : c ≠ '\n') (text : List Char) :
    codeLines (withReturns (text ++ [c])) = splitLines (text ++ [c]) := by
  have hlast : withReturns [c] = [c] := by simp [withReturns, hc]
  rw [← dropReturns_splitLines_withReturns, withReturns_append, hlast, codeLines_concat hc]

/-- The trimmed newline leaves its return to the last line. -/
lemma codeLines_withReturns_newline (hreturn : '\r' ∉ text) :
    codeLines (withReturns (text ++ ['\n'])) = codeLines (text ++ ['\r']) := by
  have hend : withReturns (text ++ ['\n']) = withReturns (text ++ ['\r']) ++ ['\n'] := by
    simp [withReturns]
  rw [hend, codeLines_append_newline, codeLines_withReturns_concat (by decide),
    codeLines_concat_of_no_returns hreturn (by decide)]

lemma exists_mem_of_mem_dropReturns {lines : List (List Char)} {line : List Char}
    (h : line ∈ dropReturns lines) : ∃ whole ∈ lines, line <+: whole := by
  rcases List.eq_nil_or_concat' lines with rfl | ⟨init, last, rfl⟩
  · exact absurd h List.not_mem_nil
  · rw [dropReturns_concat, List.mem_append, List.mem_singleton] at h
    rcases h with hinit | rfl
    · obtain ⟨whole, hwhole, rfl⟩ := List.mem_map.mp hinit
      exact ⟨whole, List.mem_append_left _ hwhole, dropFinalReturn_prefix whole⟩
    · exact ⟨line, List.mem_append_right _ List.mem_cons_self, List.prefix_rfl⟩

lemma mem_of_mem_codeLines {line : List Char} (hline : line ∈ codeLines text) {c : Char}
    (hnewline : c ≠ '\n') (hc : c ∈ line) : c ∈ text := by
  obtain ⟨ends, htext, -⟩ := exists_trimNewlines_append text
  rcases codeLines_cases text with ⟨-, hlines⟩ | ⟨init, last, hconcat, -, hlines⟩
  · rw [hlines] at hline
    exact absurd hline List.not_mem_nil
  · rw [hlines, ← hconcat] at hline
    obtain ⟨whole, hwhole, hprefix⟩ := exists_mem_of_mem_dropReturns hline
    have hmem : c ∈ trimNewlines text :=
      (mem_splitLines_iff hnewline).mp ⟨whole, hwhole, hprefix.subset hc⟩
    rw [htext]
    exact List.mem_append_left _ hmem

lemma codeLines_withReturns_iff (hreturn : '\r' ∉ text) :
    codeLines (withReturns text) = codeLines text ↔ text.getLast? ≠ some '\n' := by
  rcases List.eq_nil_or_concat' text with rfl | ⟨init, last, rfl⟩
  · simp [withReturns]
  · have hinit : '\r' ∉ init := fun hmem => hreturn (List.mem_append_left _ hmem)
    rw [List.getLast?_concat]
    by_cases hlast : last = '\n'
    · subst hlast
      refine iff_of_false (fun hsame => ?_) (by simp)
      have hline : ∃ line ∈ codeLines (init ++ ['\r']), '\r' ∈ line := by
        rw [codeLines_concat_of_no_returns hinit (by decide), mem_splitLines_iff (by decide)]
        simp
      rw [← codeLines_withReturns_newline hinit, hsame] at hline
      obtain ⟨line, hmem, hc⟩ := hline
      exact hreturn (mem_of_mem_codeLines hmem (by decide) hc)
    · refine iff_of_true ?_ (by simpa using hlast)
      rw [codeLines_withReturns_concat hlast, codeLines_concat_of_no_returns hinit hlast]

end

/-- A text whose line ends have a carriage return each. -/
def crlf (text : String) : String := String.ofList (withReturns text.toList)

end Text

open Shell (Fragment)

lemma Shell.Fragment.ofCode_eq_iff {text other : String} :
    Fragment.ofCode text = Fragment.ofCode other ↔
      Text.codeLines text.toList = Text.codeLines other.toList := by
  have hcode : Function.Injective fun line : List Char => Shell.Line.code (String.ofList line) := by
    intro a b h
    exact String.ofList_injective (Shell.Line.code.inj h)
  rw [Fragment.ofCode, Fragment.ofCode, Fragment.mk.injEq]
  exact (List.map_injective_iff.mpr hcode).eq_iff

namespace Program

/-! ## Respelled commands -/

/-- Programs that differ at most in commands, also inside of helpers: a command without returns that
does not end in a newline may be spelled with returns in its line ends. -/
inductive Respelled (node : NodeData) : Program → Program → Prop where
  | nil : Respelled node [] []
  | plain {statement : Statement} {p q : Program} (h : statement.isPlain) (rest : Respelled node p q) :
    Respelled node (statement :: p) (statement :: q)
  | command {text other : Operand} {p q : Program}
    (spelled : ∀ given, other.eval node given = Text.crlf (text.eval node given))
    (noReturns : ∀ given, '\r' ∉ (text.eval node given).toList)
    (unended : ∀ given, (text.eval node given).toList.getLast? ≠ some '\n')
    (rest : Respelled node p q) : Respelled node (.command text :: p) (.command other :: q)
  | block {kind : BlockKind} {label : Operand} {body inner p q : Program}
    (inside : Respelled node body inner) (rest : Respelled node p q) :
    Respelled node (.block kind label body :: p) (.block kind label inner :: q)
  | define {target : Target} {name : String} {body inner p q : Program}
    (inside : Respelled node body inner) (rest : Respelled node p q) :
    Respelled node (.define target name body :: p) (.define target name inner :: q)

/-! ## Drafts -/

/-- Drafts that differ at most in how their commands are spelled, in lines that render the same. -/
structure Draft.RendersLike (node : NodeData) (draft other : Draft) : Prop where
  own : draft.node = node
  others : other.node = node
  resource : draft.resource = other.resource
  helpers : draft.helpers.Related (Respelled node) other.helpers
  outer : List.Forall₂ (Helpers.Related (Respelled node)) draft.outer other.outer
  resources : draft.children.filterMap Child.origin? = other.children.filterMap Child.origin?
  fragments : childFragments draft.children = childFragments other.children
  problem : draft.problem = other.problem

namespace Draft.RendersLike

variable {node : NodeData} {draft other : Draft}

lemma node_eq (h : draft.RendersLike node other) : draft.node = other.node :=
  h.own.trans h.others.symm

lemma target (h : draft.RendersLike node other) : draft.target = other.target := by
  rw [Draft.target, Draft.target, h.resource]

lemma owner (h : draft.RendersLike node other) : draft.owner = other.owner := by
  rw [Draft.owner, Draft.owner, h.resource]

lemma nextOrigin (h : draft.RendersLike node other) (kind : ResourceKind) (label : String) :
    draft.nextOrigin kind label = other.nextOrigin kind label := by
  rw [Draft.nextOrigin, Draft.nextOrigin, h.resources]

lemma push (h : draft.RendersLike node other) {child child' : Child}
    (horigin : child.origin? = child'.origin?) (hrender : child.render = child'.render) :
    (draft.push child).RendersLike node (other.push child') := by
  have hresources : (draft.push child).children.filterMap Child.origin? =
      (other.push child').children.filterMap Child.origin? := by
    simp only [Draft.push, List.filterMap_append, List.filterMap_cons, h.resources, horigin]
  have hfragments : childFragments (draft.push child).children =
      childFragments (other.push child').children := by
    have hlast : childFragments [child] = childFragments [child'] := by
      simp only [childFragments, hrender]
    rw [Draft.push, Draft.push, childFragments_append, childFragments_append, h.fragments, hlast]
  exact { h with resources := hresources, fragments := hfragments }

lemma fragments_eq (h : draft.RendersLike node other) :
    draft.toBlock.fragments = other.toBlock.fragments := by
  simp only [Draft.toBlock, Block.fragments, h.problem, h.fragments]

lemma echo (h : draft.RendersLike node other) (message : String) :
    (draft.echo message).RendersLike node (other.echo message) := by
  unfold Draft.echo
  rw [h.nextOrigin]
  exact h.push rfl rfl

lemma haltOnFailedCommand (h : draft.RendersLike node other) :
    draft.haltOnFailedCommand.RendersLike node other.haltOnFailedCommand := by
  unfold Draft.haltOnFailedCommand
  rw [h.nextOrigin]
  exact h.push rfl rfl

lemma command_of_code (h : draft.RendersLike node other) {text text' : String}
    (hcode : Fragment.ofCode text = Fragment.ofCode text') :
    (draft.command text).RendersLike node (other.command text') := by
  unfold Draft.command
  rw [h.target]
  by_cases htarget : other.target = .block .execute
  · rw [if_pos htarget, if_pos htarget]
    exact h.push rfl (congrArg Except.ok hcode)
  · rw [if_neg htarget, if_neg htarget]
    exact h

lemma set (h : draft.RendersLike node other) (setting : Attribute String) :
    (draft.set setting).RendersLike node (other.set setting) := by
  have hresource : (draft.set setting).resource = (other.set setting).resource := by
    rw [Draft.set, Draft.set, h.resource]
  exact { h with resource := hresource }

lemma define (h : draft.RendersLike node other) (target : Target) (name : String)
    {body inner : Program} (hbody : Respelled node body inner) :
    (draft.define target name body).RendersLike node (other.define target name inner) :=
  { h with helpers := h.helpers.insert target name hbody }

lemma deferUnknownHelper (h : draft.RendersLike node other) (name : String) :
    (draft.deferUnknownHelper name).RendersLike node (other.deferUnknownHelper name) := by
  have hproblem : (draft.deferUnknownHelper name).problem =
      (other.deferUnknownHelper name).problem := by
    rw [Draft.deferUnknownHelper, Draft.deferUnknownHelper, Draft.scopeText, Draft.scopeText, h.owner,
      Draft.defer, Draft.defer, h.problem]
  exact { h with problem := hproblem }

lemma openBlock (h : draft.RendersLike node other) (kind : BlockKind) (label : String) :
    (draft.openBlock kind label).RendersLike node (other.openBlock kind label) where
  own := h.own
  others := h.others
  resource := by
    rw [Draft.openBlock, Draft.openBlock, h.nextOrigin]
  helpers := .nil
  outer := scope_related h.helpers h.outer
  resources := rfl
  fragments := rfl
  problem := rfl

/-- A block renders like another one if what is declared in it does. -/
lemma closeBlock (h : draft.RendersLike node other) {inner inner' : Draft}
    (hinner : inner.RendersLike node inner') :
    (draft.closeBlock inner).RendersLike node (other.closeBlock inner') := by
  unfold Draft.closeBlock
  rw [hinner.resource]
  cases inner'.resource with
  | none => exact h
  | some resource =>
    have hresources : inner.toBlock.resources = inner'.toBlock.resources := hinner.resources
    have hdeclares : inner.toBlock.hasDeclarations = inner'.toBlock.hasDeclarations := by
      rw [Block.hasDeclarations, Block.hasDeclarations, hresources]
    refine h.push rfl ?_
    rw [Child.render, Child.render, hdeclares, hinner.fragments_eq]

end Draft.RendersLike

/-! ## Runs -/

lemma rendersLike_keptByVerbs (node : NodeData) :
    KeptByVerbs (Respelled node) (Draft.RendersLike node) where
  node h := h.node_eq
  echo h := h.echo
  haltOnFailedCommand h := h.haltOnFailedCommand
  command h _ := h.command_of_code rfl
  set h := h.set
  deferUnknownHelper h := h.deferUnknownHelper
  openBlock h := h.openBlock
  closeBlock h := h.closeBlock
  helper? h := helper?_related h.target h.helpers h.outer

lemma ofCode_crlf_iff {text : String} (hreturn : '\r' ∉ text.toList) :
    Fragment.ofCode (Text.crlf text) = Fragment.ofCode text ↔
      text.toList.getLast? ≠ some '\n' := by
  rw [Fragment.ofCode_eq_iff, Text.crlf, String.toList_ofList, Text.codeLines_withReturns_iff hreturn]

section

variable {node : NodeData} {call other : Call}

lemma runAll_rendersLike (hcall : ∀ body inner given draft draft', Respelled node body inner →
      draft.RendersLike node draft' →
        Option.Rel (Draft.RendersLike node) (call body given draft) (other inner given draft'))
    (argument : String) {p q : Program} (hpq : Respelled node p q) {draft draft' : Draft}
    (h : draft.RendersLike node draft') :
    Option.Rel (Draft.RendersLike node) (runAll call argument p draft)
      (runAll other argument q draft') := by
  induction hpq generalizing draft draft' with
  | nil => exact .some h
  | plain hplain rest ih =>
    rw [runAll_cons, runAll_cons]
    have hstep :=
      Statement.run_plain_related (rendersLike_keptByVerbs node) hcall argument hplain h
    exact rel_bind hstep fun _ _ hnext => ih hnext
  | command spelled noReturns unended rest ih =>
    have hcode := (ofCode_crlf_iff (noReturns argument)).mpr (unended argument)
    rw [runAll_cons, runAll_cons, Statement.run, Statement.run, h.own, h.others, spelled]
    exact ih (h.command_of_code hcode.symm)
  | @block kind label _ _ _ _ inside rest ihinside ih =>
    rw [runAll_cons, runAll_cons, Statement.run, Statement.run, ← h.node_eq]
    have hinner := ihinside (h.openBlock kind (label.eval draft.node argument))
    have hclosed := rel_map hinner fun _ _ hinner => h.closeBlock hinner
    exact rel_bind hclosed fun _ _ hnext => ih hnext
  | define inside rest ihinside ih => exact ih (h.define _ _ inside)

end

lemma callWithin_rendersLike (node : NodeData) (depth : Nat) :
    ∀ body inner given draft draft', Respelled node body inner → draft.RendersLike node draft' →
      Option.Rel (Draft.RendersLike node) (callWithin depth body given draft)
        (callWithin depth inner given draft') := by
  induction depth with
  | zero => exact fun _ _ _ _ _ _ _ => .none
  | succ depth ih => exact fun _ _ given _ _ hbody h => runAll_rendersLike ih given hbody h

/-- Returns in the line ends of code without returns of its own are dropped exactly if the code does
not end in a newline; otherwise the last line keeps one. Programs that spell commands with such returns
have the same script or fail with the same error, unless neither of them ends. -/
theorem script_respelled {text : String} (hreturn : '\r' ∉ text.toList) :
    (Fragment.ofCode (Text.crlf text) = Fragment.ofCode text ↔ text.toList.getLast? ≠ some '\n') ∧
    Fragment.ofCode (Text.crlf (text ++ "\n")) = Fragment.ofCode (text ++ "\r") ∧
    ∀ {node : NodeData} {p q : Program}, Respelled node p q → ∀ depth,
      Option.Rel (fun tree other => tree.script = other.script) (p.evaluate depth node)
        (q.evaluate depth node) := by
  refine ⟨ofCode_crlf_iff hreturn, ?_, ?_⟩
  · rw [Fragment.ofCode_eq_iff, Text.crlf, String.toList_ofList, String.toList_append,
      String.toList_append]
    exact Text.codeLines_withReturns_newline hreturn
  · intro node p q hpq depth
    have hstart : (Draft.recipe node).RendersLike node (.recipe node) :=
      ⟨rfl, rfl, rfl, .nil, .nil, rfl, rfl, rfl⟩
    have hrun := runAll_rendersLike (callWithin_rendersLike node depth) "" hpq hstart
    apply rel_map hrun
    intro draft other hdraft
    rw [Block.script, Block.script, hdraft.fragments_eq]

/-- A helper that runs several commands, called in a nested block. -/
def fetchSources (fetch : String) : Program :=
  [.define (.block .execute) "fetch" [.command (.text fetch)],
    .block .execute (.text "sources") [.set (.cwd (.text "/tmp")),
      .block .execute (.text "") [.set (.creates (.text "src")), .call "fetch" (.text "")]]]

theorem script_respelled_fetchSources :
    '\r' ∉ "wget src.tgz\n\ntar xf src.tgz".toList ∧
      Fragment.ofCode "wget src.tgz\r\n\r\ntar xf src.tgz" =
        Fragment.ofCode "wget src.tgz\n\ntar xf src.tgz" ∧
      Respelled .empty (fetchSources "wget src.tgz\n\ntar xf src.tgz")
        (fetchSources "wget src.tgz\r\n\r\ntar xf src.tgz") ∧
      Option.Rel (fun tree other => tree.script = other.script)
        ((fetchSources "wget src.tgz\n\ntar xf src.tgz").evaluate 1 .empty)
        ((fetchSources "wget src.tgz\r\n\r\ntar xf src.tgz").evaluate 1 .empty) ∧
      ((fetchSources "wget src.tgz\r\n\r\ntar xf src.tgz").evaluate 1 .empty).map Block.script =
        some (.ok "cd /tmp\nif ! test -e src; then\n  wget src.tgz\n\n  tar xf src.tgz\nfi\n") := by
  have hreturn : '\r' ∉ "wget src.tgz\n\ntar xf src.tgz".toList := by decide
  have hlast : "wget src.tgz\n\ntar xf src.tgz".toList.getLast? ≠ some '\n' := by decide
  have hcrlf : "wget src.tgz\r\n\r\ntar xf src.tgz" =
      Text.crlf "wget src.tgz\n\ntar xf src.tgz" := by decide +kernel
  have hprograms : Respelled .empty (fetchSources "wget src.tgz\n\ntar xf src.tgz")
      (fetchSources "wget src.tgz\r\n\r\ntar xf src.tgz") := by
    apply Respelled.define
    · exact .command (fun _ => hcrlf) (fun _ => hreturn) (fun _ => hlast) .nil
    · apply Respelled.block _ .nil
      apply Respelled.plain rfl
      exact .block (.plain rfl (.plain rfl .nil)) .nil
  obtain ⟨hcode, -, hscripts⟩ := script_respelled hreturn
  have hsame := hcode.mpr hlast
  rw [← hcrlf] at hsame
  exact ⟨hreturn, hsame, hprograms, hscripts hprograms 1, rfl⟩

/-- With returns in its line ends, a command that ends in a newline hands one to the shell. -/
theorem finalNewline_keeps_return :
    let list (command : String) : Program := [.block .execute (.text "") [.command (.text command)]]
    '\r' ∉ "ls\n".toList ∧ Text.crlf "ls\n" = "ls\r\n" ∧
      Fragment.ofCode "ls\r\n" ≠ Fragment.ofCode "ls\n" ∧
      ((list "ls\n").evaluate 0 .empty).map Block.script = some (.ok "ls\n") ∧
      ((list "ls\r\n").evaluate 0 .empty).map Block.script = some (.ok "ls\r\n") :=
  ⟨by decide, by decide, by decide, rfl, rfl⟩

end Program

end SetupRecipe
