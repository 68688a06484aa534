import SetupRecipe.Proofs.ScriptReader

/-!
# Quoted texts

The texts of an author reach a script as a quoted word or as the payload of a here-document. A shell
that reads a quoted word finds that text and nothing else in it, and one that reads a here-document
finds the content with its last line ended. Either of them stops where the quoted text stops, whatever
comes after it.
-/

namespace SetupRecipe.Shell

/-! ## Words -/

/-- The quotes that a reader of a word is inside of. -/
inductive Quotes where
  | outside
  | single
  | double

/-- A character that ends a word outside of quotes. -/
def endsWord (c : Char) : Bool := c = ' ' || c = '\t' || c = '\n'

/-- A character that means something to the shell outside of quotes, quotes themselves apart. -/
def isSpecial (c : Char) : Bool :=
  ScriptReader.isActive c ||
    c ∈ ['|', '&', ';', '<', '>', '(', ')', '*', '?', '[', '#', '~', '=', '%']

/-- The rest of a word, from inside of the given quotes: the characters that it stands for, and what
comes after it. A word is not read if it has a special character or quotes that are not closed. -/
def readSegments? : Quotes → List Char → Option (List Char × List Char)
  | .outside, [] => some ([], [])
  | .single, [] => none
  | .double, [] => none
  | .outside, c :: rest =>
    if endsWord c then some ([], c :: rest)
    else if c = '\x27' then readSegments? .single rest
    else if c = '"' then readSegments? .double rest
    else if isSpecial c then none
    else (readSegments? .outside rest).map (Prod.map (c :: ·) id)
  | .single, c :: rest =>
    if c = '\x27' then readSegments? .outside rest
    else (readSegments? .single rest).map (Prod.map (c :: ·) id)
  | .double, c :: rest =>
    if c = '"' then readSegments? .outside rest
    else if ScriptReader.isActive c then none
    else (readSegments? .double rest).map (Prod.map (c :: ·) id)

/-- The word at the start of a text and what comes after it. There is none before a blank, a newline and
the end. -/
def firstWord? (text : String) : Option (String × String) :=
  if text.toList.head?.all endsWord then none
  else (readSegments? .outside text.toList).map (Prod.map String.ofList String.ofList)

/-- From inside of the quotes, every character is read as itself: a quote leaves the quotes, stands in
double quotes and enters them again. -/
lemma readSegments?_quoted (text : List Char) {rest : List Char}
    (h : ∀ c, rest.head? = some c → endsWord c) :
    readSegments? .single (text.flatMap quoteChar ++ '\x27' :: rest) = some (text, rest) := by
  induction text with
  | nil =>
    rw [List.flatMap_nil, List.nil_append, readSegments?, if_pos rfl]
    cases rest with
    | nil => rfl
    | cons c rest => rw [readSegments?, if_pos (h c rfl)]
  | cons c text ih =>
    rw [List.flatMap_cons, List.append_assoc]
    by_cases hc : c = '\x27'
    · subst hc
      have hsingle : endsWord '\x27' = false := by decide
      have hdouble : endsWord '"' = false := by decide
      have hactive : ScriptReader.isActive '\x27' = false := by decide
      simp [quoteChar, readSegments?, hsingle, hdouble, hactive, ih]
    · rw [quoteChar, if_neg hc, List.singleton_append, readSegments?, if_neg hc, ih]
      rfl

/-- A quoted text is one word for the shell, which is the text. Nothing in it is special, and it ends
where the quotes end. -/
theorem firstWord?_singleQuote (text : String) {rest : String}
    (h : ∀ c, rest.toList.head? = some c → endsWord c) :
    firstWord? (singleQuote text ++ rest) = some (text, rest) := by
  have hlist : (singleQuote text ++ rest).toList =
      '\x27' :: (text.toList.flatMap quoteChar ++ '\x27' :: rest.toList) := by
    simp [singleQuote]
  have hquote : endsWord '\x27' = false := by decide
  have hread : readSegments? .outside (singleQuote text ++ rest).toList =
      some (text.toList, rest.toList) := by
    rw [hlist, readSegments?, if_neg (by simp [hquote]), if_pos rfl]
    exact readSegments?_quoted text.toList h
  rw [firstWord?, hread, hlist]
  simp [hquote]

theorem firstWord?_singleQuote_date :
    (∀ c, " # the date".toList.head? = some c → endsWord c) ∧
      singleQuote "It's `date`\n" ++ " # the date" = "'It'\"'\"'s `date`\n' # the date" ∧
      firstWord? "'It'\"'\"'s `date`\n' # the date" = some ("It's `date`\n", " # the date") := by
  have hhead : " # the date".toList.head? = some ' ' := by decide
  have hrest : ∀ c, " # the date".toList.head? = some c → endsWord c := by
    intro c hc
    rw [hhead] at hc
    obtain rfl := Option.some.inj hc
    decide
  have htext : singleQuote "It's `date`\n" ++ " # the date" = "'It'\"'\"'s `date`\n' # the date" := by
    decide
  refine ⟨hrest, htext, ?_⟩
  rw [← htext]
  exact firstWord?_singleQuote "It's `date`\n" hrest

example : firstWord? "\"$HOME\" here" = none := by decide

/-! ## Here-documents -/

namespace Heredoc

/-- What a shell reads behind the line with the operator, given what it has read of the current line:
the lines before the first one that is the tag, and the text behind that one. -/
def readLines? (line : List Char) : List Char → Option (List Char × List Char)
  | [] => none
  | c :: rest =>
    if c ≠ '\n' then readLines? (line ++ [c]) rest
    else if line = heredocTag.toList then some ([], rest)
    else (readLines? [] rest).map (Prod.map (line ++ ['\n'] ++ ·) id)

/-- The content of the here-document that a text goes on with, and the text behind it. -/
def read? (text : String) : Option (String × String) :=
  (readLines? [] text.toList).map (Prod.map String.ofList String.ofList)

lemma readLines?_append {text : List Char} (h : '\n' ∉ text) (line rest : List Char) :
    readLines? line (text ++ rest) = readLines? (line ++ text) rest := by
  induction text generalizing line with
  | nil => rw [List.nil_append, List.append_nil]
  | cons c text ih =>
    rw [List.mem_cons, not_or] at h
    rw [List.cons_append, readLines?, if_pos (Ne.symm h.1), ih h.2, List.append_assoc,
      List.singleton_append]

lemma readLines?_newline (line rest : List Char) :
    readLines? line ('\n' :: rest) =
      if line = heredocTag.toList then some ([], rest)
      else (readLines? [] rest).map (Prod.map (line ++ ['\n'] ++ ·) id) := by
  rw [readLines?, if_neg (by simp)]

/-- Lines are read up to the first one that is the tag. -/
lemma readLines?_endLines {lines : List (List Char)}
    (h : ∀ line ∈ lines, '\n' ∉ line ∧ line ≠ heredocTag.toList) (rest : List Char) :
    readLines? [] (Text.endLines (lines ++ [heredocTag.toList]) ++ rest) =
      some (Text.endLines lines, rest) := by
  have hcons (line : List Char) (more : List (List Char)) :
      Text.endLines (line :: more) ++ rest = line ++ '\n' :: (Text.endLines more ++ rest) := by
    simp [Text.endLines]
  induction lines with
  | nil =>
    have htag : '\n' ∉ heredocTag.toList := by decide
    rw [List.nil_append, hcons, readLines?_append htag, List.nil_append, readLines?_newline, if_pos rfl]
    rfl
  | cons line lines ih =>
    rw [List.forall_mem_cons] at h
    obtain ⟨⟨hnewline, htag⟩, hlines⟩ := h
    rw [List.cons_append, hcons, readLines?_append hnewline, List.nil_append, readLines?_newline,
      if_neg htag, ih hlines]
    simp [Text.endLines]

/-- A content has no here-document exactly if one of its lines is the tag. What a shell reads from the
here-document of any other content, behind the line with the operator, is the content with its last line
ended, and it goes on with what comes after the here-document. -/
theorem ofContent?_read (content : String) :
    (ofContent? content = none ↔ HasTagLine content) ∧
    ∀ doc, ofContent? content = some doc →
      '\n' ∉ operator.toList ∧ doc.text = operator ++ "\n" ++ (doc.body ++ "\n") ∧
      ∀ after, read? (doc.body ++ "\n" ++ after) = some (written content, after) := by
  refine ⟨ofContent?_eq_none_iff content, fun doc hdoc => ⟨by decide, ?_, fun after => ?_⟩⟩
  · rw [text, String.append_assoc]
  · obtain ⟨htag, hlines⟩ := lines_of_ofContent? hdoc
    have hclean : ∀ line ∈ doc.lines, '\n' ∉ line ∧ line ≠ heredocTag.toList := by
      intro line hline
      refine ⟨newline_not_mem_of_mem_lines hline, ?_⟩
      rintro rfl
      exact htag hline
    have hbody : (doc.body ++ "\n" ++ after).toList =
        Text.endLines (doc.lines ++ [heredocTag.toList]) ++ after.toList := by
      rw [← splitLines_body, Text.endLines_splitLines, String.toList_append, String.toList_append]
      rfl
    rw [read?, hbody, readLines?_endLines hclean, hlines]
    simp

theorem ofContent?_read_almostTags :
    ∃ doc, ofContent? " GALLEY_EOF\nGALLEY_EOF\r\n\n" = some doc ∧
      doc.text = "<<'GALLEY_EOF'\n GALLEY_EOF\nGALLEY_EOF\r\n\nGALLEY_EOF\n" ∧
      read? (doc.body ++ "\n" ++ "GALLEY_EOF\nls\n") =
        some (" GALLEY_EOF\nGALLEY_EOF\r\n\n", "GALLEY_EOF\nls\n") := by
  obtain ⟨doc, hdoc⟩ : ∃ doc, ofContent? " GALLEY_EOF\nGALLEY_EOF\r\n\n" = some doc := ⟨_, rfl⟩
  obtain ⟨-, -, hread⟩ := (ofContent?_read " GALLEY_EOF\nGALLEY_EOF\r\n\n").2 doc hdoc
  refine ⟨doc, hdoc, ?_, hread "GALLEY_EOF\nls\n"⟩
  obtain rfl := Option.some.inj hdoc
  decide

end Heredoc

end SetupRecipe.Shell
