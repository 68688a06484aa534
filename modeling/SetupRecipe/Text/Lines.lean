/-!
# Lines of a text

A text of `n` newlines has `n + 1` lines, the last of which may be empty. Code is cut differently:
its trailing newlines end the last line instead of starting new ones, and a carriage return that
directly precedes a newline belongs to the line end.
-/

namespace SetupRecipe.Text

/-- The pieces of a text between its newlines, never none. -/
def splitLines : List Char → List (List Char)
  | [] => [[]]
  | c :: rest =>
    if c = '\n' then [] :: splitLines rest
    else match splitLines rest with
      | [] => [[c]]
      | line :: lines => (c :: line) :: lines

/-- The lines of a text put back together, one newline between two of them. -/
def joinLines : List (List Char) → List Char
  | [] => []
  | [line] => line
  | line :: lines => line ++ '\n' :: joinLines lines

/-- A text without its trailing run of newlines. -/
def trimNewlines (text : List Char) : List Char :=
  (text.reverse.dropWhile (· == '\n')).reverse

/-- A text without the newline that ends it, if one does. -/
def dropFinalNewline (text : List Char) : List Char :=
  if text.getLast? = some '\n' then text.dropLast else text

/-- A line without the carriage return that ends it, if one does. -/
def dropFinalReturn (line : List Char) : List Char :=
  if line.getLast? = some '\r' then line.dropLast else line

/-- Every line but the last loses the carriage return before its newline. -/
def dropReturns : List (List Char) → List (List Char)
  | [] => []
  | [line] => [line]
  | line :: lines => dropFinalReturn line :: dropReturns lines

/-- The lines of a piece of code: trailing newlines start no line, so blank code has none. -/
def codeLines (text : List Char) : List (List Char) :=
  match trimNewlines text with
  | [] => []
  | trimmed => dropReturns (splitLines trimmed)

theorem splitLines_ne_nil (text : List Char) : splitLines text ≠ [] := by
  cases text with
  | nil => simp [splitLines]
  | cons c rest =>
    rw [splitLines]
    split
    · simp
    · split <;> simp

@[simp] theorem joinLines_splitLines (text : List Char) : joinLines (splitLines text) = text := by
  induction text with
  | nil => rfl
  | cons c rest ih =>
    rw [splitLines]
    by_cases h : c = '\n'
    · rw [if_pos h]
      cases hs : splitLines rest with
      | nil => exact absurd hs (splitLines_ne_nil rest)
      | cons line lines => rw [hs] at ih; simp [joinLines, ih, h]
    · rw [if_neg h]
      cases hs : splitLines rest with
      | nil => exact absurd hs (splitLines_ne_nil rest)
      | cons line lines =>
        rw [hs] at ih
        cases lines with
        | nil => simpa [joinLines] using ih
        | cons next more => simpa [joinLines] using ih

end SetupRecipe.Text
