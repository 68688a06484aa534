import SetupRecipe.Proofs.Heredocs
import SetupRecipe.Shell.Quote

/-!
# Reading scripts

A reader of scripts that knows quotes, quoted here-documents, guards and the ends of lines, but not
what the commands of a script do. It goes through a script once, character by character. Outside of
quotes and payloads it collects a line and acts on it at the newline; inside of them nothing ends a
line of code, however much a text looks like code.
-/

namespace SetupRecipe.Shell

/-- What a script does. -/
inductive Action where
  /-- Runs a command as it is written. -/
  | run (command : String)
  | print (message : String)
  | write (path content : String)
  /-- Does something only if a test fails. -/
  | guarded (test : String) (body : List Action)

/-- A character of a line of code, as it stands or from between quotes. -/
inductive Glyph where
  | bare (c : Char)
  | quoted (c : Char)
deriving DecidableEq

/-- Text outside of quotes. -/
def bare (text : String) : List Glyph := text.toList.map .bare

/-- Text between quotes. -/
def quoted (text : String) : List Glyph := text.toList.map .quoted

namespace Glyph

def bare? : Glyph → Option Char
  | .bare c => some c
  | .quoted _ => none

def quoted? : Glyph → Option Char
  | .bare _ => none
  | .quoted c => some c

end Glyph

/-- The text of glyphs of which none is quoted. -/
def bareText? (line : List Glyph) : Option String := (line.mapM Glyph.bare?).map String.ofList

/-- The text of glyphs that are all quoted. -/
def quotedText? (line : List Glyph) : Option String := (line.mapM Glyph.quoted?).map String.ofList

/-- What follows some glyphs at the front of a line. -/
def after? (front line : List Glyph) : Option (List Glyph) :=
  if front <+: line then some (line.drop front.length) else none

/-- What stands before some glyphs at the end of a line. -/
def before? (back line : List Glyph) : Option (List Glyph) :=
  if back <:+ line then some (line.take (line.length - back.length)) else none

/-- What a line of code says. -/
inductive Instruction where
  | nothing
  | perform (action : Action)
  /-- The lines that follow are the content of a file. -/
  | document (path : String)
  | beginGuard (test : String)
  | endGuard

namespace Instruction

/-- The test of `if ! TEST; then`, given what follows the first word. -/
def test? (rest : List Glyph) : Option String := do
  bareText? (← before? (bare "; then") (← after? (bare "! ") rest))

/-- The path of `cat <<'TAG' > PATH`, given what follows the first word. -/
def path? (rest : List Glyph) : Option String := do
  bareText? (← after? (bare "<<" ++ quoted heredocTag ++ bare " > ") rest)

/-- The instruction on a line without the blanks at its start, given its first word and the rest. -/
def ofWord? (line word rest : List Glyph) : Option Instruction :=
  if word = [] then some nothing
  else if word = bare ":" then if rest = [] then some nothing else none
  else if word = bare "fi" then if rest = [] then some endGuard else none
  else if word = bare "if" then (test? rest).map beginGuard
  else if word = bare "echo" then (quotedText? rest).map fun message => perform (.print message)
  else if word = bare "cat" then (path? rest).map document
  else (bareText? line).map fun command => perform (.run command)

/-- The instruction on a line. -/
def ofLine? (line : List Glyph) : Option Instruction :=
  let code := line.dropWhile (· = .bare ' ')
  ofWord? code (code.takeWhile (· ≠ .bare ' ')) ((code.dropWhile (· ≠ .bare ' ')).drop 1)

end Instruction

/-- Where a reader is. -/
inductive Mode where
  | code
  | singleQuotes
  | doubleQuotes
  /-- In the content of a file: what has been read of it, and of its current line. -/
  | payload (path : String) (content line : List Char)
deriving DecidableEq

structure ScriptReader where
  mode : Mode
  /-- What has been read of the current line of code. -/
  line : List Glyph
  /-- The actions of the innermost open guard, or of the script. -/
  actions : List Action
  /-- The open guards, the innermost first, each with the actions that stand before it. -/
  guards : List (String × List Action)

namespace ScriptReader

def start : ScriptReader := ⟨.code, [], [], []⟩

/-- Acts on a line of code. -/
def obey (r : ScriptReader) : Instruction → Option ScriptReader
  | .nothing => some { r with line := [] }
  | .perform action => some { r with line := [], actions := r.actions ++ [action] }
  | .document path => some { r with line := [], mode := .payload path [] [] }
  | .beginGuard test =>
    some { r with line := [], actions := [], guards := (test, r.actions) :: r.guards }
  | .endGuard =>
    match r.guards with
    | [] => none
    | (test, actions) :: guards =>
      some { r with line := [], actions := actions ++ [.guarded test r.actions], guards }

/-- A character that double quotes do not take away the meaning of. -/
def isActive (c : Char) : Bool := c = '\\' || c = '$' || c = '\x60'

/-- Reads one character. -/
def step (r : ScriptReader) (c : Char) : Option ScriptReader :=
  match r.mode with
  | .code =>
    if c = '\n' then (Instruction.ofLine? r.line).bind r.obey
    else if c = '\x27' then some { r with mode := .singleQuotes }
    else if c = '"' then some { r with mode := .doubleQuotes }
    else some { r with line := r.line ++ [.bare c] }
  | .singleQuotes =>
    if c = '\x27' then some { r with mode := .code }
    else some { r with line := r.line ++ [.quoted c] }
  | .doubleQuotes =>
    if c = '"' then some { r with mode := .code }
    else if isActive c then none
    else some { r with line := r.line ++ [.quoted c] }
  | .payload path content line =>
    if c ≠ '\n' then some { r with mode := .payload path content (line ++ [c]) }
    else if line = heredocTag.toList then
      some { r with mode := .code, actions := r.actions ++ [.write path (String.ofList content)] }
    else some { r with mode := .payload path (content ++ line ++ ['\n']) [] }

def feed (r : ScriptReader) (text : List Char) : Option ScriptReader := text.foldlM step r

end ScriptReader

/-- The actions of a script; there are none if the script ends inside of quotes, of a content or of a
guard, or on a line without its newline. -/
def readScript? (script : String) : Option (List Action) := do
  let r ← ScriptReader.start.feed script.toList
  if r.mode = .code ∧ r.line = [] ∧ r.guards = [] then some r.actions else none

/-! ## Lines of code -/

lemma after?_append (front rest : List Glyph) : after? front (front ++ rest) = some rest := by
  simp [after?]

lemma before?_append (front back : List Glyph) : before? back (front ++ back) = some front := by
  simp [before?]

lemma bareText?_bare (text : String) : bareText? (bare text) = some text := by
  have h : (bare text).mapM Glyph.bare? = some text.toList := by
    unfold bare
    induction text.toList with
    | nil => rfl
    | cons c text ih => simp [Glyph.bare?, ih]
  rw [bareText?, h, Option.map_some, String.ofList_toList]

lemma quotedText?_quoted (text : String) : quotedText? (quoted text) = some text := by
  have h : (quoted text).mapM Glyph.quoted? = some text.toList := by
    unfold quoted
    induction text.toList with
    | nil => rfl
    | cons c text ih => simp [Glyph.quoted?, ih]
  rw [quotedText?, h, Option.map_some, String.ofList_toList]

@[simp] lemma bare_inj {a b : String} : bare a = bare b ↔ a = b := by
  unfold bare
  rw [List.map_inj_right (by simp), String.toList_inj]

lemma bare_append (a b : String) : bare (a ++ b) = bare a ++ bare b := by
  simp [bare]

/-- The first words that mean something to the reader. -/
def reservedWords : List String := ["", ":", "if", "fi", "echo", "cat"]

/-- A text that reads as it stands: it has no quotes and stays on its line. -/
def IsBare (text : String) : Prop := ∀ c ∈ text.toList, c ≠ '\n' ∧ c ≠ '\x27' ∧ c ≠ '"'

instance (text : String) : Decidable (IsBare text) := List.decidableBAll _ text.toList

lemma IsBare.append {a b : String} (ha : IsBare a) (hb : IsBare b) : IsBare (a ++ b) := by
  intro c hc
  rw [String.toList_append, List.mem_append] at hc
  rcases hc with hc | hc
  · exact ha c hc
  · exact hb c hc

lemma IsBare.newline_not_mem {text : String} (h : IsBare text) : '\n' ∉ text.toList :=
  fun hmem => (h '\n' hmem).1 rfl

/-- A text that reads as a command. -/
structure IsCommand (text : String) : Prop where
  bare : IsBare text
  firstWord : String.ofList (text.toList.takeWhile (· ≠ ' ')) ∉ reservedWords

instance (text : String) : Decidable (IsCommand text) :=
  decidable_of_iff
    (IsBare text ∧ String.ofList (text.toList.takeWhile (· ≠ ' ')) ∉ reservedWords)
    ⟨fun h => ⟨h.1, h.2⟩, fun h => ⟨h.1, h.2⟩⟩

namespace Instruction

/-- Blanks at the start of a line do not matter. -/
lemma ofLine?_blanks (n : Nat) {line : List Glyph} (h : line.head? ≠ some (.bare ' ')) :
    ofLine? (List.replicate n (.bare ' ') ++ line) =
      ofWord? line (line.takeWhile (· ≠ .bare ' ')) ((line.dropWhile (· ≠ .bare ' ')).drop 1) := by
  have hdrop : (List.replicate n (Glyph.bare ' ') ++ line).dropWhile (· = .bare ' ') = line := by
    rw [List.dropWhile_append_of_pos (by simp)]
    cases line with
    | nil => rfl
    | cons g line => rw [List.dropWhile_cons_of_neg (by simpa using h)]
  unfold ofLine?
  rw [hdrop]

lemma ofLine?_words (n : Nat) {word rest : List Glyph} (hword : word ≠ [])
    (hblank : .bare ' ' ∉ word) :
    ofLine? (List.replicate n (.bare ' ') ++ (word ++ .bare ' ' :: rest)) =
      ofWord? (word ++ .bare ' ' :: rest) word rest := by
  have hpos : ∀ g ∈ word, decide (g ≠ .bare ' ') = true := by
    intro g hg
    exact decide_eq_true fun h => hblank (h ▸ hg)
  rw [ofLine?_blanks, List.takeWhile_append_of_pos hpos, List.dropWhile_append_of_pos hpos]
  · simp
  · cases word with
    | nil => exact absurd rfl hword
    | cons g word =>
      intro hg
      apply hblank
      rw [← Option.some.inj hg]
      exact List.mem_cons_self

lemma ofLine?_command (n : Nat) {text : String} (h : IsCommand text) :
    ofLine? (List.replicate n (.bare ' ') ++ bare text) = some (.perform (.run text)) := by
  have hfirst : (bare text).takeWhile (· ≠ .bare ' ') =
      bare (String.ofList (text.toList.takeWhile (· ≠ ' '))) := by
    rw [bare, List.takeWhile_map, bare, String.toList_ofList]
    congr
    funext c
    simp
  have hreserved := h.firstWord
  simp only [reservedWords, List.mem_cons, List.not_mem_nil, or_false, not_or] at hreserved
  obtain ⟨hempty, hnoOp, hif, hfi, hecho, hcat⟩ := hreserved
  have hnil : bare (String.ofList (text.toList.takeWhile (· ≠ ' '))) ≠ [] := by
    intro hnil
    exact hempty (bare_inj.mp hnil)
  have hblank : (bare text).head? ≠ some (.bare ' ') := by
    intro hhead
    rw [← hfirst] at hnil
    apply hnil
    cases hline : bare text with
    | nil => rfl
    | cons g line => simp_all
  rw [ofLine?_blanks n hblank, hfirst]
  unfold ofWord?
  simp only [hnil, bare_inj, hnoOp, hif, hfi, hecho, hcat, if_false, bareText?_bare]
  rfl

lemma ofLine?_noOp (n : Nat) :
    ofLine? (List.replicate n (.bare ' ') ++ bare ":") = some nothing := by
  rw [ofLine?_blanks n (by decide)]
  rfl

lemma ofLine?_fi (n : Nat) :
    ofLine? (List.replicate n (.bare ' ') ++ bare "fi") = some endGuard := by
  rw [ofLine?_blanks n (by decide)]
  rfl

lemma ofLine?_if (n : Nat) (test : String) :
    ofLine? (List.replicate n (.bare ' ') ++ bare ("if ! " ++ test ++ "; then")) =
      some (beginGuard test) := by
  have hline : bare ("if ! " ++ test ++ "; then") =
      bare "if" ++ .bare ' ' :: (bare "! " ++ (bare test ++ bare "; then")) := by
    rw [bare_append, bare_append, List.append_assoc]
    rfl
  have htest : test? (bare "! " ++ (bare test ++ bare "; then")) = some test := by
    simp [test?, after?_append, before?_append, bareText?_bare]
  rw [hline, ofLine?_words n (by decide) (by decide)]
  simp [ofWord?, bare_inj, htest, show bare "if" ≠ [] by decide]

lemma ofLine?_echo (n : Nat) (message : String) :
    ofLine? (List.replicate n (.bare ' ') ++ (bare "echo " ++ quoted message)) =
      some (perform (.print message)) := by
  have hline : bare "echo " ++ quoted message = bare "echo" ++ .bare ' ' :: quoted message := rfl
  rw [hline, ofLine?_words n (by decide) (by decide)]
  simp [ofWord?, bare_inj, quotedText?_quoted, show bare "echo" ≠ [] by decide]

lemma ofLine?_cat (n : Nat) (path : String) :
    ofLine? (List.replicate n (.bare ' ') ++
        (bare "cat <<" ++ quoted heredocTag ++ bare (" > " ++ path))) =
      some (document path) := by
  have hline : bare "cat <<" ++ quoted heredocTag ++ bare (" > " ++ path) =
      bare "cat" ++ .bare ' ' :: (bare "<<" ++ quoted heredocTag ++ bare " > " ++ bare path) := by
    rw [bare_append, ← List.append_assoc]
    rfl
  have hpath : path? (bare "<<" ++ (quoted heredocTag ++ (bare " > " ++ bare path))) =
      some path := by
    rw [← List.append_assoc, ← List.append_assoc]
    simp only [path?, after?_append, Option.bind_eq_bind, Option.bind_some, bareText?_bare]
  rw [hline, ofLine?_words n (by decide) (by decide)]
  simp [ofWord?, bare_inj, hpath, show bare "cat" ≠ [] by decide]

end Instruction

/-! ## Feeding characters -/

namespace ScriptReader

variable {actions : List Action} {guards : List (String × List Action)}

lemma feed_append (r : ScriptReader) (a b : List Char) :
    r.feed (a ++ b) = (r.feed a).bind fun next => next.feed b := by
  unfold feed
  rw [List.foldlM_append]
  rfl

lemma feed_cons (r : ScriptReader) (c : Char) (text : List Char) :
    r.feed (c :: text) = (r.step c).bind fun next => next.feed text := by
  unfold feed
  rw [List.foldlM_cons]
  rfl

/-- A text that puts glyphs on the current line of code and does nothing else. -/
def Spells (text : List Char) (line : List Glyph) : Prop :=
  ∀ before actions guards,
    feed ⟨.code, before, actions, guards⟩ text = some ⟨.code, before ++ line, actions, guards⟩

lemma Spells.append {a b : List Char} {first second : List Glyph} (ha : Spells a first)
    (hb : Spells b second) : Spells (a ++ b) (first ++ second) := by
  intro before actions guards
  rw [feed_append, ha, Option.bind_some, hb, List.append_assoc]

lemma Spells.bare {text : String} (h : IsBare text) : Spells text.toList (bare text) := by
  unfold IsBare at h
  unfold Shell.bare
  generalize text.toList = chars at h
  induction chars with
  | nil =>
    intro before actions guards
    simp [feed]
  | cons c chars ih =>
    rw [List.forall_mem_cons] at h
    obtain ⟨⟨hnewline, hsingle, hdouble⟩, hchars⟩ := h
    intro before actions guards
    have hstep : step ⟨.code, before, actions, guards⟩ c =
        some ⟨.code, before ++ [.bare c], actions, guards⟩ := by
      simp [step, hnewline, hsingle, hdouble]
    rw [feed_cons, hstep, Option.bind_some, ih hchars, List.append_assoc]
    rfl

lemma Spells.blanks (n : Nat) : Spells (List.replicate n ' ') (List.replicate n (.bare ' ')) := by
  have hbare : IsBare (String.ofList (List.replicate n ' ')) := by
    intro c hc
    rw [String.toList_ofList] at hc
    rw [List.eq_of_mem_replicate hc]
    decide
  have h := Spells.bare hbare
  rwa [Shell.bare, String.toList_ofList, List.map_replicate] at h

/-- A quoted message is read up to its last quote, whatever stands in it. -/
lemma Spells.singleQuote (message : String) :
    Spells (singleQuote message).toList (quoted message) := by
  intro before actions guards
  have hinside : ∀ text : List Char, ∀ line : List Glyph,
      feed ⟨.singleQuotes, line, actions, guards⟩ (text.flatMap quoteChar ++ ['\x27']) =
        some ⟨.code, line ++ text.map .quoted, actions, guards⟩ := by
    intro text
    induction text with
    | nil => simp [feed, step]
    | cons c text ih =>
      intro line
      by_cases hc : c = '\x27'
      · subst hc
        simp [quoteChar, feed_cons, step, isActive, ih]
      · simp [quoteChar, hc, feed_cons, step, ih]
  rw [Shell.singleQuote, String.toList_ofList, List.cons_append, feed_cons]
  simpa [step, quoted] using hinside message.toList before

/-- A line of code is read at its newline, no matter how far it is indented. -/
lemma feed_line {text : List Char} {line : List Glyph} {instruction : Instruction}
    (htext : Spells text line) (n : Nat)
    (hline : Instruction.ofLine? (List.replicate n (.bare ' ') ++ line) = some instruction) :
    feed ⟨.code, [], actions, guards⟩ (List.replicate n ' ' ++ text ++ ['\n']) =
      obey ⟨.code, [], actions, guards⟩ instruction := by
  have hstep : step ⟨.code, List.replicate n (.bare ' ') ++ line, actions, guards⟩ '\n' =
      obey ⟨.code, [], actions, guards⟩ instruction := by
    simp only [step, if_true, hline, Option.bind_some]
    cases instruction <;> rfl
  rw [feed_append, (Spells.blanks n).append htext, Option.bind_some, List.nil_append, feed_cons,
    hstep]
  simp [feed]

lemma feed_payloadLine {path : String} {content read text : List Char} (h : '\n' ∉ text) :
    feed ⟨.payload path content read, [], actions, guards⟩ text =
      some ⟨.payload path content (read ++ text), [], actions, guards⟩ := by
  induction text generalizing read with
  | nil => simp [feed]
  | cons c text ih =>
    rw [List.mem_cons, not_or] at h
    simp [feed_cons, step, Ne.symm h.1, ih h.2]

/-- The payload of a here-document is read up to the first line that is the tag. -/
lemma feed_payload {path : String} {content : List Char} {lines : List (List Char)}
    (hlines : ∀ l ∈ lines, '\n' ∉ l ∧ l ≠ heredocTag.toList) :
    feed ⟨.payload path content [], [], actions, guards⟩
        (Text.endLines (lines ++ [heredocTag.toList])) =
      some ⟨.code, [], actions ++ [.write path (String.ofList (content ++ Text.endLines lines))],
        guards⟩ := by
  induction lines generalizing content with
  | nil =>
    have htag : '\n' ∉ heredocTag.toList := by decide
    have hlast : Text.endLines ([] ++ [heredocTag.toList]) = heredocTag.toList ++ ['\n'] := by
      decide
    rw [hlast, feed_append, feed_payloadLine htag, Option.bind_some, feed_cons]
    simp [step, feed, Text.endLines]
  | cons l lines ih =>
    rw [List.forall_mem_cons] at hlines
    obtain ⟨⟨hnewline, htag⟩, hrest⟩ := hlines
    have hcons (more : List (List Char)) :
        Text.endLines (l :: more) = l ++ '\n' :: Text.endLines more := by
      simp [Text.endLines]
    have hstep : step ⟨.payload path content l, [], actions, guards⟩ '\n' =
        some ⟨.payload path (content ++ l ++ ['\n']) [], [], actions, guards⟩ := by
      simp [step, htag]
    rw [List.cons_append, hcons, feed_append, feed_payloadLine hnewline, Option.bind_some,
      List.nil_append, feed_cons, hstep, Option.bind_some, ih hrest, hcons]
    simp

end ScriptReader

end SetupRecipe.Shell
