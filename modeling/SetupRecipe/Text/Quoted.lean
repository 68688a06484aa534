import SetupRecipe.Text.Hidden

/-!
# Quoted texts

Messages name blocks by labels that an author chose freely. A label stands in double quotes, and
whatever could be taken for the end of the quotes, break the line or go unseen is escaped.
-/

namespace SetupRecipe.Text

/-- A code point in lower-case hexadecimal, between braces. -/
def escapeCode (c : Char) : List Char :=
  ['\\', 'u', '\x7b'] ++ Nat.toDigits 16 c.toNat ++ ['\x7d']

/-- A character inside double quotes. -/
def escapeMark (c : Char) : List Char :=
  if c = '\x00' then ['\\', '0']
  else if c = '\t' then ['\\', 't']
  else if c = '\r' then ['\\', 'r']
  else if c = '\n' then ['\\', 'n']
  else if c = '"' then ['\\', '"']
  else if c = '\\' then ['\\', '\\']
  else if isHidden c then escapeCode c
  else [c]

/-- A text in double quotes. -/
def quoted (text : String) : String :=
  String.ofList ('"' :: text.toList.flatMap escapeMark ++ ['"'])

end SetupRecipe.Text
