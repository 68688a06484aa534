/-!
# Single-quoted shell words

A message reaches the script as one single-quoted word, so the shell expands nothing in it. A single
quote cannot stand inside single quotes: it closes the word, is given in double quotes, and reopens it.
-/

namespace SetupRecipe.Shell

/-- How one character is spelled inside a single-quoted word. -/
def quoteChar (c : Char) : List Char :=
  if c = '\x27' then ['\x27', '\x22', '\x27', '\x22', '\x27'] else [c]

/-- A text as one shell word. -/
def singleQuote (text : String) : String :=
  String.ofList ('\x27' :: text.toList.flatMap quoteChar ++ ['\x27'])

end SetupRecipe.Shell
