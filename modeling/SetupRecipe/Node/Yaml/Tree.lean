import SetupRecipe.Node.Yaml.Token

/-!
# Trees of YAML documents

A document is a tree of scalars, lists and mappings. Every collection is written in one of two forms,
laid out by indentation or in brackets; the tree does not tell them apart. A place where a scalar is
missing holds the empty plain scalar.
-/

namespace SetupRecipe.Node.Yaml

/-- The content of a document. -/
inductive Tree where
  | scalar (text : String) (plain : Bool)
  | list (items : List Tree)
  | mapping (entries : List (Tree × Tree))

namespace Tree

/-- The scalar of a place where none is written. -/
def missing : Tree := scalar "" true

mutual

/-- The number of collections around the innermost one, itself included. -/
def depth : Tree → Nat
  | scalar _ _ => 0
  | list items => depthOfItems items + 1
  | mapping entries => depthOfEntries entries + 1

def depthOfItems : List Tree → Nat
  | [] => 0
  | item :: items => max item.depth (depthOfItems items)

def depthOfEntries : List (Tree × Tree) → Nat
  | [] => 0
  | (key, value) :: entries => max (max key.depth value.depth) (depthOfEntries entries)

end

/-- A reader of trees or their parts. -/
abbrev Parse (α : Type) := List Token → Option (α × List Token)

/-- Whether the next token is one of the given ones. -/
def startsWith (marks : List Token) (tokens : List Token) : Bool := tokens.head?.any marks.contains

/-- What stands before one of the given tokens: a tree, or nothing. -/
def orMissing (marks : List Token) (read : Parse Tree) : Parse Tree := fun tokens =>
  if startsWith marks tokens then some (missing, tokens) else read tokens

/-- The value after a key in brackets, if a colon announces one. -/
def bracketValue (marks : List Token) (read : Parse Tree) : Parse Tree
  | .value :: rest => orMissing marks read rest
  | tokens => some (missing, tokens)

/-- The value after a key that is laid out by indentation, if a colon announces one. -/
def layoutValue (read : Parse Tree) : Parse Tree
  | .value :: rest => orMissing [.key, .value, .layoutEnd] read rest
  | tokens => some (missing, tokens)

/-- What follows a comma; before the first part of a collection there is none. -/
def afterComma (first : Bool) (tokens : List Token) : Option (List Token) :=
  if first then some tokens
  else match tokens with
    | .comma :: rest => some rest
    | _ => none

mutual

/-- A tree. Lists and mappings that are laid out by indentation stand only where `layout` allows,
lists without indentation of their own only where `flat` allows. -/
def node? : Nat → (layout flat : Bool) → Parse Tree
  | 0, _, _ => fun _ => none
  | fuel + 1, layout, flat => fun tokens =>
    match tokens with
    | .scalar text plain :: rest => some (scalar text plain, rest)
    | .openBracket :: rest => (bracketItems? fuel true rest).map fun (items, rest) => (list items, rest)
    | .openBrace :: rest =>
      (braceEntries? fuel true rest).map fun (entries, rest) => (mapping entries, rest)
    | .listStart :: rest =>
      if layout then (layoutItems? fuel rest).map fun (items, rest) => (list items, rest) else none
    | .mappingStart :: rest =>
      if layout then
        (layoutEntries? fuel rest).map fun (entries, rest) => (mapping entries, rest)
      else none
    | .item :: _ =>
      if flat then (flatItems? fuel tokens).map fun (items, rest) => (list items, rest) else none
    | _ => none

/-- The items of a list that is laid out by indentation. -/
def layoutItems? : Nat → Parse (List Tree)
  | 0 => fun _ => none
  | fuel + 1 => fun
    | .layoutEnd :: rest => some ([], rest)
    | .item :: rest => do
      let (item, rest) ← orMissing [.item, .layoutEnd] (node? fuel true false) rest
      let (items, rest) ← layoutItems? fuel rest
      return (item :: items, rest)
    | _ => none

/-- The items of a list below a key that is not indented itself. -/
def flatItems? : Nat → Parse (List Tree)
  | 0 => fun _ => none
  | fuel + 1 => fun
    | .item :: rest => do
      let (item, rest) ←
        orMissing [.item, .key, .value, .layoutEnd] (node? fuel true false) rest
      let (items, rest) ← flatItems? fuel rest
      return (item :: items, rest)
    | tokens => some ([], tokens)

/-- The entries of a mapping that is laid out by indentation. -/
def layoutEntries? : Nat → Parse (List (Tree × Tree))
  | 0 => fun _ => none
  | fuel + 1 => fun
    | .layoutEnd :: rest => some ([], rest)
    | .key :: rest => do
      let (key, rest) ← orMissing [.key, .value, .layoutEnd] (node? fuel true true) rest
      let (value, rest) ← layoutValue (node? fuel true true) rest
      let (entries, rest) ← layoutEntries? fuel rest
      return ((key, value) :: entries, rest)
    | _ => none

/-- The items of a list in brackets; an item with a key is a mapping of one entry. -/
def bracketItems? : Nat → Bool → Parse (List Tree)
  | 0, _ => fun _ => none
  | fuel + 1, first => fun
    | .closeBracket :: rest => some ([], rest)
    | tokens => do
      match ← afterComma first tokens with
      | .closeBracket :: rest => return ([], rest)
      | .key :: rest =>
        let (key, rest) ← orMissing [.value, .comma, .closeBracket] (node? fuel false false) rest
        let (value, rest) ← bracketValue [.comma, .closeBracket] (node? fuel false false) rest
        let (items, rest) ← bracketItems? fuel false rest
        return (mapping [(key, value)] :: items, rest)
      | rest =>
        let (item, rest) ← node? fuel false false rest
        let (items, rest) ← bracketItems? fuel false rest
        return (item :: items, rest)

/-- The entries of a mapping in braces; a key without a colon has no value. -/
def braceEntries? : Nat → Bool → Parse (List (Tree × Tree))
  | 0, _ => fun _ => none
  | fuel + 1, first => fun
    | .closeBrace :: rest => some ([], rest)
    | tokens => do
      match ← afterComma first tokens with
      | .closeBrace :: rest => return ([], rest)
      | .key :: rest =>
        let (key, rest) ← orMissing [.value, .comma, .closeBrace] (node? fuel false false) rest
        let (value, rest) ← bracketValue [.comma, .closeBrace] (node? fuel false false) rest
        let (entries, rest) ← braceEntries? fuel false rest
        return ((key, value) :: entries, rest)
      | rest =>
        let (key, rest) ← node? fuel false false rest
        let (entries, rest) ← braceEntries? fuel false rest
        return ((key, missing) :: entries, rest)

end

end Tree

/-! ## Documents -/

/-- The first document of a text. -/
structure Document where
  content : Tree
  /-- The line and column of its first token. -/
  line : Nat
  column : Nat
  /-- Whether anything follows the document. -/
  more : Bool

namespace Document

/-- The document that tokens make up. -/
def ofTokens? (tokens : List Located) : Option Document := do
  let (started, tokens) := match tokens with
    | ⟨.documentStart, _, _⟩ :: rest => (true, rest)
    | tokens => (false, tokens)
  let plain := tokens.map Located.token
  let (line, column) := (tokens.head?.map fun t => (t.line, t.column)).getD (0, 0)
  let (content, rest) ←
    if plain.isEmpty || started && Tree.startsWith [.documentStart, .documentEnd] plain then
      some (Tree.missing, plain)
    else Tree.node? (3 * plain.length + 3) true false plain
  return { content, line, column, more := !(rest.dropWhile (· == .documentEnd)).isEmpty }

/-- The document that a text starts with. -/
def ofText? (cs : List Char) : Option Document := do ofTokens? (← tokens? cs)

end Document

end SetupRecipe.Node.Yaml
