import SetupRecipe.Proofs.ScriptReader

/-!
# Words of commands

A command is made of words with single blanks between them. A path without blanks is one word of the
commands and tests that it stands in.
-/

namespace SetupRecipe.Shell

/-- The words of a command, which single blanks separate. -/
def words (command : String) : List String := (command.toList.splitOn ' ').map String.ofList

lemma words_of_not_mem {text : String} (h : ' ' ∉ text.toList) : words text = [text] := by
  have hsplit : text.toList.splitOn ' ' = [text.toList] := by
    apply List.splitOnP_eq_singleton
    intro c hc
    simpa using fun hblank : c = ' ' => h (hblank ▸ hc)
  rw [words, hsplit, List.map_singleton, String.ofList_toList]

lemma words_append {first : String} (h : ' ' ∉ first.toList) (rest : String) :
    words (first ++ " " ++ rest) = first :: words rest := by
  have hlist : (first ++ " " ++ rest).toList = first.toList ++ ' ' :: rest.toList := by
    rw [String.toList_append, String.toList_append, List.append_assoc]
    rfl
  have hsplit : (first.toList ++ ' ' :: rest.toList).splitOn ' ' =
      first.toList :: rest.toList.splitOn ' ' := by
    apply List.splitOnP_append_cons_of_forall_mem
    · intro c hc
      simpa using fun hblank : c = ' ' => h (hblank ▸ hc)
    · simp
  rw [words, hlist, hsplit, List.map_cons, String.ofList_toList]
  rfl

lemma words_two {first second : String} (hfirst : ' ' ∉ first.toList)
    (hsecond : ' ' ∉ second.toList) : words (first ++ " " ++ second) = [first, second] := by
  rw [words_append hfirst, words_of_not_mem hsecond]

lemma words_three {first second third : String} (hfirst : ' ' ∉ first.toList)
    (hsecond : ' ' ∉ second.toList) (hthird : ' ' ∉ third.toList) :
    words (first ++ " " ++ second ++ " " ++ third) = [first, second, third] := by
  have hassoc : first ++ " " ++ second ++ " " ++ third = first ++ " " ++ (second ++ " " ++ third) := by
    simp only [String.append_assoc]
  rw [hassoc, words_append hfirst, words_two hsecond hthird]

/-- A path that a script holds as it stands: it is not empty, and it has no blanks, newlines and
quotes. -/
def isPathWord (path : String) : Bool :=
  path ≠ "" && path.toList.all fun c => c ∉ [' ', '\n', '\x27', '"']

lemma isPathWord_ne {path : String} (h : isPathWord path) {c : Char} (hc : c ∈ path.toList) :
    c ≠ ' ' ∧ c ≠ '\n' ∧ c ≠ '\x27' ∧ c ≠ '"' := by
  unfold isPathWord at h
  rw [Bool.and_eq_true, List.all_eq_true] at h
  have hother := h.2 c hc
  simpa using hother

lemma isBare_of_isPathWord {path : String} (h : isPathWord path) : IsBare path :=
  fun _ hc => (isPathWord_ne h hc).2

lemma blank_not_mem_of_isPathWord {path : String} (h : isPathWord path) : ' ' ∉ path.toList :=
  fun hblank => (isPathWord_ne h hblank).1 rfl

end SetupRecipe.Shell
