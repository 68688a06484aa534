import SetupRecipe.Text.Lines

/-!
# Quoted here-documents

File contents reach the script as the payload of a here-document whose tag is quoted, so the shell
expands nothing in it. The payload ends at the first line equal to the tag: a content with such a
line has no here-document.
-/

namespace SetupRecipe.Shell

/-- The line that closes every here-document. -/
def heredocTag : String := "GALLEY_EOF"

/-- A here-document; without a payload nothing is written. -/
structure Heredoc where
  payload : Option String
deriving DecidableEq, Repr

namespace Heredoc

/-- The redirection that announces the payload. -/
def operator : String := "<<'" ++ heredocTag ++ "'"

/-- The lines of the payload and the closing tag, without a final newline. -/
def body (doc : Heredoc) : String :=
  match doc.payload with
  | some payload => payload ++ "\n" ++ heredocTag
  | none => heredocTag

/-- The operator, the body and a final newline. -/
def text (doc : Heredoc) : String :=
  operator ++ "\n" ++ doc.body ++ "\n"

/-- The here-document that writes a content, unless a line of the content equals the tag.
The newline that ends the content is the one that ends the last line of the payload. -/
def ofContent? (content : String) : Option Heredoc :=
  if content = "" then some ⟨none⟩
  else
    let payload := Text.dropFinalNewline content.toList
    if heredocTag.toList ∈ Text.splitLines payload then none
    else some ⟨some (String.ofList payload)⟩

end Heredoc

end SetupRecipe.Shell
