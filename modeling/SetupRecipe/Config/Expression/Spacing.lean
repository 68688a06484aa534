import SetupRecipe.Config.Expression.Piece
import SetupRecipe.Text.Blank
import SetupRecipe.Text.Lines

/-!
# Blanks in templates

A marker with a tilde takes blanks away from the text next to it, up to and including one line end.
A here-document may be indented like its surroundings: the indentation that its texts have in common
is removed, unless a marker starts one of its lines. Inside of a marker the indentation is put back when
the text of the marker is written.
-/

namespace SetupRecipe.Config

/-! ## Blanks next to markers -/

/-- A text without the blanks at its start, up to and including one line end. -/
def trimStart (s : List Char) : List Char :=
  match s.dropWhile Text.isInlineBlank with
  | '\n' :: rest => rest
  | '\r' :: '\n' :: rest => rest
  | rest => rest

/-- A text without the blanks at its end, up to and including one line end. -/
def trimEnd (s : List Char) : List Char :=
  match s.reverse.dropWhile Text.isInlineBlank with
  | '\n' :: '\r' :: rest => rest.reverse
  | '\n' :: rest => rest.reverse
  | rest => rest.reverse

def Piece.trimsRight : Piece → Bool
  | marker _ _ right _ => right
  | text _ => false

def Piece.trimsLeft : Piece → Bool
  | marker left _ _ _ => left
  | text _ => false

/-- Applies the tildes of the markers; `after` tells whether the piece before has one on its right. -/
def trimPieces (after : Bool) : List Piece → List Piece
  | [] => []
  | .text s :: rest =>
    let s := if after then trimStart s else s
    let s := if rest.head?.any Piece.trimsLeft then trimEnd s else s
    .text s :: trimPieces false rest
  | piece :: rest => piece :: trimPieces piece.trimsRight rest

/-! ## Indentation -/

/-- The lines of a text; the empty one after its last line end is one of them. -/
def linesOf (s : List Char) : List (List Char) := Text.dropReturns (Text.splitLines s)

/-- The least indentation of the non-empty lines that start in a text. It is none if that is zero or
if there is no such line. -/
def indentationOf? (isFirst : Bool) (s : List Char) : Option Nat :=
  let lines := if isFirst then linesOf s else (linesOf s).drop 1
  let indentations := (lines.filter (!·.isEmpty)).map fun line => (line.takeWhile Text.isBlank).length
  indentations.min?.filter (0 < ·)

/-- A text without the first `n` characters of the lines that start in it. -/
def dedentText (n : Nat) (isFirst : Bool) (s : List Char) : List Char :=
  match linesOf s with
  | [] => []
  | line :: lines =>
    Text.joinLines ((if isFirst then line.drop n else line) :: lines.map (·.drop n))

/-- A text with `n` blanks before every line that starts in it and is not empty. -/
def indentText (n : Nat) (isFirst : Bool) (s : List Char) : List Char :=
  let indented (line : List Char) := if line.isEmpty then [] else List.replicate n ' ' ++ line
  match linesOf s with
  | [] => []
  | line :: lines => Text.joinLines ((if isFirst then indented line else line) :: lines.map indented)

/-- The indentations of the texts outside of directives, of which `depth` are open. -/
def indentations (isFirst : Bool) (depth : Nat) : List Piece → List Nat
  | [] => []
  | piece :: rest =>
    let more := indentations false ((piece.depthAfter? depth).getD depth) rest
    match piece with
    | .text s => if depth = 0 then (indentationOf? isFirst s).toList ++ more else more
    | .marker _ _ _ _ => more

/-- Whether a marker outside of directives starts a line; `fresh` tells whether a line starts before the
pieces. -/
def markerStartsLine (fresh : Bool) (depth : Nat) : List Piece → Bool
  | [] => false
  | .text s :: rest => markerStartsLine (depth = 0 && s.getLast? == some '\n') depth rest
  | piece :: rest =>
    depth = 0 && fresh || markerStartsLine false ((piece.depthAfter? depth).getD depth) rest

/-- The indentation that the texts outside of directives have in common. -/
def commonIndentation? (pieces : List Piece) : Option Nat :=
  if markerStartsLine true 0 pieces then none else (indentations true 0 pieces).min?

/-- Applies a change to the texts outside of directives; it is told whether a text is the first
piece. -/
def mapTexts (change : Bool → List Char → List Char) (isFirst : Bool) (depth : Nat) :
    List Piece → List Piece
  | [] => []
  | piece :: rest =>
    let changed := match piece with
      | .text s => if depth = 0 then .text (change isFirst s) else piece
      | .marker _ _ _ _ => piece
    changed :: mapTexts change false ((piece.depthAfter? depth).getD depth) rest

/-- Pieces without an indentation. -/
def dedent (n : Nat) (pieces : List Piece) : List Piece := mapTexts (dedentText n) true 0 pieces

/-- Pieces with an indentation. -/
def indent (n : Nat) (pieces : List Piece) : List Piece := mapTexts (indentText n) true 0 pieces

end SetupRecipe.Config
