import SetupRecipe.Text.Lines

/-!
# Fragments of a script

A fragment is a list of lines. Guards indent the code they wrap; the payload of a here-document
would change its meaning if it were indented, so its lines are kept apart as literal lines.
-/

namespace SetupRecipe.Shell

/-- One line of a script. A code line made from a quoted word may hold newlines of its own. -/
inductive Line where
  | code (text : String)
  | literal (text : String)
deriving DecidableEq, Repr

namespace Line

def text : Line → String
  | code text => text
  | literal text => text

/-- Code moves two columns to the right, unless it is empty; literal lines stay. -/
def indent : Line → Line
  | code text => code (if text = "" then text else "  " ++ text)
  | literal text => literal text

end Line

/-- A piece of a script, line by line. -/
structure Fragment where
  lines : List Line
deriving DecidableEq, Repr

namespace Fragment

def empty : Fragment := ⟨[]⟩

instance : Append Fragment where
  append a b := ⟨a.lines ++ b.lines⟩

def isEmpty (fragment : Fragment) : Bool := fragment.lines.isEmpty

/-- One code line for each line of the text; trailing newlines start no line. -/
def ofCode (text : String) : Fragment :=
  ⟨(Text.codeLines text.toList).map fun line => .code (String.ofList line)⟩

/-- A single code line, which keeps the newlines it holds. -/
def ofLine (text : String) : Fragment :=
  ⟨[.code text]⟩

/-- One literal line for each line of the text. -/
def ofLiteral (text : String) : Fragment :=
  ⟨(Text.splitLines text.toList).map fun line => .literal (String.ofList line)⟩

def indented (fragment : Fragment) : Fragment :=
  ⟨fragment.lines.map Line.indent⟩

/-- What a guard runs when there is nothing to do. -/
def noOp : Fragment := ⟨[.code ":"]⟩

/-- The body runs only when the predicate fails. -/
def guarded (predicate : String) (body : Fragment) : Fragment :=
  ofCode ("if ! " ++ predicate ++ "; then")
    ++ (if body.isEmpty then noOp else body).indented
    ++ ofCode "fi"

/-- The lines of the fragment with a newline between two of them. -/
def text (fragment : Fragment) : String :=
  String.intercalate "\n" (fragment.lines.map Line.text)

@[simp] theorem lines_append (a b : Fragment) : (a ++ b).lines = a.lines ++ b.lines := rfl

theorem isEmpty_iff {fragment : Fragment} : fragment.isEmpty = true ↔ fragment = empty := by
  cases fragment with
  | mk lines => simp [isEmpty, empty]

end Fragment

end SetupRecipe.Shell
