import Mathlib.Data.List.Forall2
import SetupRecipe.Proofs.ScriptReader
import SetupRecipe.Declaration.Render

/-!
# Actions of fragments

A fragment reads as the same actions at every depth of indentation and behind everything that was
read before. Because of that the actions of fragments in a row, inside of a guard and between blank
lines are made of the actions of each.
-/

namespace SetupRecipe.Shell

/-- Behind its operator, a here-document is read as its content, whatever the content looks like. -/
lemma ScriptReader.feed_body {content : String} {doc : Heredoc}
    (hdoc : Heredoc.ofContent? content = some doc) (path : String) (actions : List Action)
    (guards : List (String × List Action)) :
    feed ⟨.payload path [] [], [], actions, guards⟩ (Text.endLines (Text.splitLines doc.body.toList)) =
      some ⟨.code, [], actions ++ [.write path (Heredoc.written content)], guards⟩ := by
  obtain ⟨htag, hlines⟩ := Heredoc.lines_of_ofContent? hdoc
  have hclean : ∀ l ∈ doc.lines, '\n' ∉ l ∧ l ≠ heredocTag.toList := by
    intro l hl
    refine ⟨Heredoc.newline_not_mem_of_mem_lines hl, ?_⟩
    rintro rfl
    exact htag hl
  rw [Heredoc.splitLines_body, feed_payload hclean, List.nil_append, hlines, String.ofList_toList]

/-- A text in which a reader finds some actions, at the start of a line and inside of any guards. -/
def Reads (text : List Char) (found : List Action) : Prop :=
  ∀ actions guards,
    ScriptReader.feed ⟨.code, [], actions, guards⟩ text = some ⟨.code, [], actions ++ found, guards⟩

namespace Reads

lemma nil : Reads [] [] := by
  intro actions guards
  simp [ScriptReader.feed]

lemma append {a b : List Char} {first second : List Action} (ha : Reads a first)
    (hb : Reads b second) : Reads (a ++ b) (first ++ second) := by
  intro actions guards
  rw [ScriptReader.feed_append, ha, Option.bind_some, hb, List.append_assoc]

lemma found_eq_nil {found : List Action} (h : Reads [] found) : found = [] := by
  have hstart := h [] []
  simpa [ScriptReader.feed] using hstart.symm

lemma line {text : List Char} {glyphs : List Glyph} {action : Action}
    (htext : ScriptReader.Spells text glyphs) (n : Nat)
    (hline : Instruction.ofLine? (List.replicate n (.bare ' ') ++ glyphs) =
      some (.perform action)) :
    Reads (List.replicate n ' ' ++ text ++ ['\n']) [action] := by
  intro actions guards
  rw [ScriptReader.feed_line htext n hline]
  rfl

lemma command {text : String} (h : IsCommand text) (n : Nat) :
    Reads (List.replicate n ' ' ++ text.toList ++ ['\n']) [.run text] :=
  line (.bare h.bare) n (Instruction.ofLine?_command n h)

lemma echo (message : String) (n : Nat) :
    Reads (List.replicate n ' ' ++ ("echo " ++ singleQuote message).toList ++ ['\n'])
      [.print message] := by
  rw [String.toList_append]
  exact line ((ScriptReader.Spells.bare (by decide)).append (.singleQuote message)) n
    (Instruction.ofLine?_echo n message)

lemma noOp (n : Nat) : Reads (List.replicate n ' ' ++ ":".toList ++ ['\n']) [] := by
  intro actions guards
  rw [ScriptReader.feed_line (.bare (by decide)) n (Instruction.ofLine?_noOp n), List.append_nil]
  rfl

lemma blankLine : Reads ['\n'] [] := by
  intro actions guards
  have hspells : ScriptReader.Spells [] [] := by
    intro before actions guards
    simp [ScriptReader.feed]
  have hline : Instruction.ofLine? (List.replicate 0 (.bare ' ') ++ []) = some .nothing := rfl
  rw [List.append_nil]
  exact ScriptReader.feed_line hspells 0 hline

/-- A here-document carries its content whatever the content looks like. -/
lemma document {content path : String} {doc : Heredoc}
    (hdoc : Heredoc.ofContent? content = some doc) (hpath : IsBare path) (n : Nat) :
    Reads (List.replicate n ' ' ++ ("cat " ++ Heredoc.operator ++ " > " ++ path).toList ++ ['\n']
        ++ Text.endLines (Text.splitLines doc.body.toList))
      [.write path (Heredoc.written content)] := by
  intro actions guards
  have htext : "cat " ++ Heredoc.operator ++ " > " ++ path =
      "cat <<" ++ singleQuote heredocTag ++ (" > " ++ path) := by
    rw [show "cat " ++ Heredoc.operator = "cat <<" ++ singleQuote heredocTag by decide,
      String.append_assoc]
  have hspells : ScriptReader.Spells ("cat " ++ Heredoc.operator ++ " > " ++ path).toList
      (bare "cat <<" ++ quoted heredocTag ++ bare (" > " ++ path)) := by
    rw [htext, String.toList_append, String.toList_append]
    exact ((ScriptReader.Spells.bare (by decide)).append (.singleQuote heredocTag)).append
      (.bare (IsBare.append (by decide) hpath))
  rw [ScriptReader.feed_append, ScriptReader.feed_line hspells n (Instruction.ofLine?_cat n path)]
  exact ScriptReader.feed_body hdoc path actions guards

lemma isBare_ifLine {test : String} (h : IsBare test) : IsBare ("if ! " ++ test ++ "; then") :=
  IsBare.append (IsBare.append (by decide) h) (by decide)

/-- The body of a guard is read on its own and becomes one action. -/
lemma guarded {test : String} (htest : IsBare test) (n : Nat) {body : List Char}
    {found : List Action} (hbody : Reads body found) :
    Reads (List.replicate n ' ' ++ ("if ! " ++ test ++ "; then").toList ++ ['\n'] ++ body
        ++ (List.replicate n ' ' ++ "fi".toList ++ ['\n']))
      [.guarded test found] := by
  intro actions guards
  have hif := isBare_ifLine htest
  have hfi : IsBare "fi" := by decide
  rw [ScriptReader.feed_append, ScriptReader.feed_append,
    ScriptReader.feed_line (.bare hif) n (Instruction.ofLine?_if n test)]
  simp only [ScriptReader.obey, Option.bind_some]
  rw [hbody, Option.bind_some, ScriptReader.feed_line (.bare hfi) n (Instruction.ofLine?_fi n)]
  rfl

end Reads

/-! ## Indentation -/

/-- A line moved some columns to the right: an empty line and a literal line stay. -/
def Line.shifted (n : Nat) : Line → List Char
  | code text => if text = "" then [] else List.replicate n ' ' ++ text.toList
  | literal text => text.toList

lemma Line.shifted_zero (line : Line) : line.shifted 0 = line.text.toList := by
  cases line with
  | code text =>
    by_cases h : text = ""
    · simp [shifted, Line.text, h]
    · simp [shifted, Line.text, h]
  | literal text => rfl

lemma Line.shifted_indent (n : Nat) (line : Line) :
    line.indent.shifted n = line.shifted (n + 2) := by
  cases line with
  | code text =>
    by_cases h : text = ""
    · simp [shifted, indent, h]
    · have hindent : "  " ++ text ≠ "" := by simp
      simp only [shifted, indent, h, if_false, hindent, String.toList_append]
      rw [← List.replicate_append_replicate, List.append_assoc]
      rfl
  | literal text => rfl

namespace Fragment

/-- The lines of a fragment moved some columns to the right. -/
def shifted (n : Nat) (fragment : Fragment) : List Char :=
  Text.endLines (fragment.lines.map (Line.shifted n))

lemma shifted_append (n : Nat) (a b : Fragment) :
    (a ++ b).shifted n = a.shifted n ++ b.shifted n := by
  rw [shifted, lines_append, List.map_append, Text.endLines_append]
  rfl

lemma shifted_indented (n : Nat) (fragment : Fragment) :
    fragment.indented.shifted n = fragment.shifted (n + 2) := by
  simp [shifted, indented, Function.comp_def, Line.shifted_indent]

lemma shifted_ofLine (n : Nat) {text : String} (h : text ≠ "") :
    (ofLine text).shifted n = List.replicate n ' ' ++ text.toList ++ ['\n'] := by
  simp [shifted, ofLine, Line.shifted, h, Text.endLines]

/-- Code on one line is that line. -/
lemma ofCode_eq_ofLine {text : String} (hempty : text ≠ "") (h : '\n' ∉ text.toList) :
    ofCode text = ofLine text := by
  have hne : text.toList ≠ [] := by simpa using hempty
  have htrim : Text.trimNewlines text.toList = text.toList := by
    obtain ⟨init, c, hc⟩ := List.eq_nil_or_concat text.toList |>.resolve_left hne
    have hlast : c ≠ '\n' := by
      rintro rfl
      apply h
      simp [hc]
    simp [Text.trimNewlines, hc, hlast]
  have hlines : Text.codeLines text.toList = [text.toList] := by
    unfold Text.codeLines
    rw [htrim]
    cases hc : text.toList with
    | nil => exact absurd hc hne
    | cons c rest =>
      rw [hc] at h
      simp [Text.splitLines_of_not_mem h, Text.dropReturns]
  simp [ofCode, ofLine, hlines]

lemma shifted_ofLiteral (n : Nat) (text : String) :
    (ofLiteral text).shifted n = Text.endLines (Text.splitLines text.toList) := by
  have hline : Line.shifted n ∘ (fun line => Line.literal (String.ofList line)) = id := by
    funext line
    simp [Line.shifted]
  simp [shifted, ofLiteral, hline]

lemma toList_intercalate_newline {texts : List String} (h : texts ≠ []) :
    (String.intercalate "\n" texts ++ "\n").toList = Text.endLines (texts.map String.toList) := by
  induction texts with
  | nil => exact absurd rfl h
  | cons text texts ih =>
    cases texts with
    | nil => simp [Text.endLines]
    | cons next texts =>
      rw [String.intercalate_cons_cons, String.append_assoc, String.append_assoc,
        String.toList_append, String.toList_append, ih (by simp)]
      simp [Text.endLines]

lemma toList_text {fragment : Fragment} (h : fragment.lines ≠ []) :
    (fragment.text ++ "\n").toList = fragment.shifted 0 := by
  have hmap : fragment.lines.map Line.text ≠ [] := by simpa using h
  rw [text, toList_intercalate_newline hmap, shifted, List.map_map]
  congr
  funext line
  exact (line.shifted_zero).symm

/-! ## Fragments and their actions -/

/-- A fragment in which a reader finds some actions, however far it is indented. -/
def ReadsAs (fragment : Fragment) (found : List Action) : Prop :=
  ∀ n, Reads (fragment.shifted n) found

namespace ReadsAs

lemma empty : Fragment.empty.ReadsAs [] := fun _ => .nil

lemma append {a b : Fragment} {first second : List Action} (ha : a.ReadsAs first)
    (hb : b.ReadsAs second) : (a ++ b).ReadsAs (first ++ second) := by
  intro n
  rw [shifted_append]
  exact (ha n).append (hb n)

lemma command {text : String} (h : IsCommand text) :
    (Fragment.ofCode text).ReadsAs [.run text] := by
  intro n
  have hempty : text ≠ "" := by
    rintro rfl
    exact h.firstWord (by decide)
  rw [ofCode_eq_ofLine hempty h.bare.newline_not_mem, shifted_ofLine n hempty]
  exact .command h n

lemma echo (message : String) :
    (Fragment.ofLine ("echo " ++ singleQuote message)).ReadsAs [.print message] := by
  intro n
  rw [shifted_ofLine n (by simp)]
  exact .echo message n

lemma writeFile {origin : Origin} {path content : String} {fragment : Fragment}
    (hpath : IsBare path)
    (h : SetupRecipe.writeFile origin path content = .ok fragment) :
    fragment.ReadsAs [.write path (Heredoc.written content)] := by
  unfold SetupRecipe.writeFile at h
  cases hdoc : Heredoc.ofContent? content with
  | none => simp [hdoc] at h
  | some doc =>
    rw [hdoc] at h
    obtain rfl := Except.ok.inj h
    intro n
    have hline : '\n' ∉ ("cat " ++ Heredoc.operator ++ " > " ++ path).toList := by
      rw [String.toList_append, List.mem_append, not_or]
      exact ⟨by decide, hpath.newline_not_mem⟩
    rw [shifted_append, shifted_ofLiteral, ofCode_eq_ofLine (by simp) hline,
      shifted_ofLine n (by simp)]
    exact .document hdoc hpath n

lemma guarded {test : String} (htest : IsBare test) {body : Fragment} {found : List Action}
    (hbody : body.ReadsAs found) : (Fragment.guarded test body).ReadsAs [.guarded test found] := by
  intro n
  have hif := Reads.isBare_ifLine htest
  have hinner : Reads ((if body.isEmpty then noOp else body).indented.shifted n) found := by
    rw [shifted_indented]
    by_cases hempty : body.isEmpty
    · obtain rfl := isEmpty_iff.mp hempty
      rw [if_pos hempty, (hbody 0).found_eq_nil, show noOp = Fragment.ofLine ":" from rfl,
        shifted_ofLine _ (by decide)]
      exact .noOp (n + 2)
    · rw [if_neg hempty]
      exact hbody (n + 2)
  unfold Fragment.guarded
  rw [shifted_append, shifted_append, ofCode_eq_ofLine (by simp) hif.newline_not_mem,
    show Fragment.ofCode "fi" = Fragment.ofLine "fi" by decide, shifted_ofLine n (by simp),
    shifted_ofLine n (by decide)]
  exact .guarded htest n hinner

/-- A fragment on lines of its own. -/
lemma text {fragment : Fragment} {found : List Action} (h : fragment.ReadsAs found) :
    Reads (fragment.text ++ "\n").toList found := by
  by_cases hlines : fragment.lines = []
  · obtain rfl : fragment = Fragment.empty := by
      cases fragment
      exact congrArg Fragment.mk hlines
    rw [(h 0).found_eq_nil]
    exact .blankLine
  · rw [toList_text hlines]
    exact h 0

/-- Fragments in a row. -/
lemma concat {fragments : List Fragment} {found : List (List Action)}
    (h : List.Forall₂ ReadsAs fragments found) :
    (Fragment.concat fragments).ReadsAs found.flatten := by
  induction h with
  | nil => exact empty
  | cons hfragment hrest ih => exact hfragment.append ih

/-- Fragments with blank lines between them. -/
lemma joinScript {fragments : List Fragment} {found : List (List Action)}
    (h : List.Forall₂ ReadsAs fragments found) :
    Reads (Block.joinScript fragments).toList found.flatten := by
  unfold Block.joinScript
  induction h with
  | nil => exact .nil
  | @cons fragment actions fragments found hfragment hrest ih =>
    rw [List.flatten_cons]
    cases hrest with
    | nil => simpa using hfragment.text
    | cons _ _ =>
      rw [List.map_cons, List.map_cons, String.intercalate_cons_cons,
        String.toList_append, String.toList_append]
      have hblank := hfragment.text.append .blankLine
      rw [List.append_nil] at hblank
      exact hblank.append ih

end ReadsAs

/-- A script that is made of fragments is read as their actions. -/
lemma readScript?_joinScript {fragments : List Fragment} {found : List (List Action)}
    (h : List.Forall₂ ReadsAs fragments found) :
    readScript? (Block.joinScript fragments) = some found.flatten := by
  unfold readScript? ScriptReader.start
  rw [ReadsAs.joinScript h [] [], List.nil_append]
  rfl

end Fragment

end SetupRecipe.Shell
